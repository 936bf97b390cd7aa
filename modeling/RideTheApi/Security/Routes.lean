import RideTheApi.Py.PosixPath

/-!
# `Security.Routes` — the router and its templates

The router takes the first route whose method and template accept the request; a path parameter accepts any text without
a slash that is not empty, `.` and `..` included. What the path of a route becomes when it is normalised is found by
walking the template with each parameter dropped, taking a component off, or put on (`outcomes`).
-/

namespace RideTheApi.Security

open Py

/-! ## The router -/

/-- What stands between two slashes of a template. -/
inductive Segment where
  | literal (text : Str)
  | parameter
deriving DecidableEq

instance : Coe String Segment := ⟨fun text => .literal text⟩

/-- A route as it is declared: the template is the segments after its first slash. -/
structure Route where
  method : Str
  template : List Segment
deriving DecidableEq

def Segment.accepts : Segment → Str → Bool
  | .literal text, part => part == text
  | .parameter, part    => part != []

/-- The parts of a path against the segments of a template. -/
def acceptsAll : List Segment → List Str → Bool
  | [], []                       => true
  | segment :: segments, p :: ps => segment.accepts p && acceptsAll segments ps
  | _, _                         => false

def Route.accepts (r : Route) (method path : Str) : Bool :=
  r.method == method && acceptsAll (.literal [] :: r.template) (Str.split (cp '/') path)

/-- The routes of the application in the order they are registered: TLS, DNS, protocols, devices, patterns, LLM, system,
    web UI, resilience. The static files and the proxy come after all of them. -/
def routes : List Route :=
  let get (template : List Segment) : Route := { method := "GET", template := template }
  let post (template : List Segment) : Route := { method := "POST", template := template }
  let put (template : List Segment) : Route := { method := "PUT", template := template }
  let patch (template : List Segment) : Route := { method := "PATCH", template := template }
  let delete (template : List Segment) : Route := { method := "DELETE", template := template }
  [get ["api", "tls", "ca-cert"],
    get ["api", "tls", "stats"],
    get ["api", "tls", "relayed"],
    get ["api", "tls", "device-ports"],
    get ["api", "tls", "unidentified"],
    put ["api", "devices", .parameter, "tls-config"],
    get ["api", "tls", "ports"],
    get ["api", "tls", "frida", "script.js"],
    get ["api", "tls", "certs"],
    get ["api", "tls", "certs", .parameter],
    post ["api", "tls", "certs", "upload"],
    post ["api", "tls", "certs", "upload-json"],
    delete ["api", "tls", "certs", .parameter],
    post ["api", "tls", "certs", .parameter, "rotate"],
    post ["api", "tls", "root-ca", "download"],
    get ["api", "dns", "discovery"],
    post ["api", "dns", "intercept"],
    delete ["api", "dns", "intercept", .parameter],
    get ["api", "dns", "settings"],
    put ["api", "dns", "settings"],
    delete ["api", "dns", "discovery"],
    get ["api", "protocol-servers"],
    post ["api", "protocol-servers", .parameter, "start"],
    post ["api", "protocol-servers", .parameter, "stop"],
    get ["api", "protocol-servers", .parameter, "config"],
    get ["api", "devices"],
    get ["api", "devices", .parameter],
    get ["api", "devices", .parameter, "stats"],
    delete ["api", "devices", .parameter],
    get ["api", "devices", .parameter, "match-rate"],
    post ["api", "devices", .parameter, "mode"],
    put ["api", "devices", .parameter, "threshold"],
    put ["api", "devices", .parameter, "context-buffer"],
    get ["api", "devices", .parameter, "auto-switch"],
    put ["api", "devices", .parameter, "auto-switch"],
    put ["api", "devices", .parameter, "llm"],
    post ["api", "devices", .parameter, "database"],
    post ["api", "devices", .parameter, "database", "rename"],
    get ["api", "databases"],
    get ["api", "devices", .parameter, "database"],
    get ["api", "devices", "by-ip", .parameter],
    get ["api", "devices", .parameter, "connection"],
    put ["api", "devices", .parameter, "connection"],
    get ["api", "ip-profiles", .parameter, "bypass"],
    put ["api", "ip-profiles", .parameter, "bypass"],
    post ["api", "devices", .parameter, "ip"],
    get ["api", "devices", .parameter, "buffer"],
    delete ["api", "devices", .parameter, "buffer", .parameter],
    get ["api", "devices", .parameter, "context"],
    put ["api", "devices", .parameter, "context"],
    get ["api", "devices", .parameter, "capture", "export"],
    post ["api", "devices", .parameter, "capture", "import"],
    get ["api", "devices", .parameter, "patterns"],
    get ["api", "devices", .parameter, "patterns", "export"],
    get ["api", "devices", .parameter, "patterns", .parameter],
    put ["api", "devices", .parameter, "patterns", .parameter],
    patch ["api", "devices", .parameter, "patterns", .parameter],
    delete ["api", "devices", .parameter, "patterns", .parameter],
    post ["api", "devices", .parameter, "patterns", "import"],
    get ["api", "llm", "profiles"],
    get ["api", "llm", "settings"],
    put ["api", "llm", "settings"],
    post ["api", "llm", "profiles", "test"],
    post ["api", "llm", "settings", "profiles"],
    delete ["api", "llm", "settings", "profiles", .parameter],
    post ["api", "devices", .parameter, "llm", "flush"],
    post ["api", "devices", .parameter, "llm", "preview"],
    get ["api", "llm", "user-profiles"],
    post ["api", "llm", "user-profiles"],
    get ["api", "llm", "user-profiles", .parameter],
    put ["api", "llm", "user-profiles", .parameter],
    delete ["api", "llm", "user-profiles", .parameter],
    get ["health"],
    post ["api", "system", "update"],
    get ["api", "settings", "buffer-backend"],
    put ["api", "settings", "buffer-backend"],
    get ["api", "config"],
    put ["api", "config"],
    post ["api", "auth", "password"],
    get [""],
    get ["patterns"],
    get ["patterns", .parameter],
    get ["config"],
    get ["options"],
    get ["api", "independence", .parameter],
    get ["api", "independence"],
    get ["api", "independence", ""],
    post ["api", "independence", .parameter, "auto-switch"],
    get ["api", "independence", .parameter, "export"],
    post ["api", "independence", .parameter, "import"]]

/-- The route a request is dispatched to. -/
def dispatch (method path : Str) : Option Route := routes.find? fun r => r.accepts method path

/-- A route declared under `/api/`. -/
def Route.underApi (r : Route) : Bool := r.template.head? == some "api"

/-- The download of the CA certificate. -/
def caCertRoute : Route := { method := "GET", template := ["api", "tls", "ca-cert"] }

/-- The first-run setup. -/
def setupRoute : Route := { method := "POST", template := ["api", "auth", "password"] }

/-! ## What a path of a route normalises to -/

/-- The stacks a template may leave; `none` is any component. -/
def outcomes : List (Option Str) → List Segment → List (List (Option Str))
  | comps, []                       => [comps]
  | comps, .literal text :: segments =>
    outcomes (if text = [] ∨ text = str "." then comps else if text = str ".." then comps.dropLast
      else comps ++ [some text]) segments
  | comps, .parameter :: segments    =>
    outcomes comps segments ++ outcomes comps.dropLast segments ++ outcomes (comps ++ [none]) segments

/-- A stack as an outcome says it is. -/
def Agrees (outcome : List (Option Str)) (comps : List Str) : Prop :=
  List.Forall₂ (fun o comp => ∀ text ∈ o, comp = text) outcome comps

theorem Agrees.dropLast {outcome : List (Option Str)} {comps : List Str} (h : Agrees outcome comps) :
    Agrees outcome.dropLast comps.dropLast := by
  unfold Agrees
  rw [List.dropLast_eq_take, List.dropLast_eq_take, List.Forall₂.length_eq h]
  exact List.forall₂_take _ h

theorem Agrees.push {outcome : List (Option Str)} {comps : List Str} (h : Agrees outcome comps) {o : Option Str}
    {comp : Str} (ho : ∀ text ∈ o, comp = text) : Agrees (outcome ++ [o]) (comps ++ [comp]) :=
  List.rel_append h (.cons ho .nil)

/-- Whatever the parameters are, the path of a route normalises to one of its outcomes. -/
theorem exists_outcome {segments : List Segment} {parts : List Str} (h : acceptsAll segments parts = true)
    {outcome : List (Option Str)} {comps : List Str} (hagrees : Agrees outcome comps) :
    ∃ o ∈ outcomes outcome segments, Agrees o (parts.foldl pushComp comps) := by
  induction segments generalizing parts outcome comps with
  | nil =>
    cases parts with
    | nil => exact ⟨outcome, List.mem_singleton_self _, hagrees⟩
    | cons part parts => cases h
  | cons segment segments ih =>
    cases parts with
    | nil => cases h
    | cons part parts =>
      obtain ⟨hpart, hrest⟩ := (Bool.and_eq_true _ _).mp h
      rw [List.foldl_cons]
      cases segment with
      | literal text =>
        obtain rfl : part = text := by simpa [Segment.accepts] using hpart
        rw [outcomes]
        refine ih hrest ?_
        unfold pushComp
        split_ifs with hskip hup
        · exact hagrees
        · exact hagrees.dropLast
        · exact hagrees.push (by simp)
      | parameter =>
        rw [outcomes]
        unfold pushComp
        split_ifs with hskip hup
        · obtain ⟨o, ho, hag⟩ := ih hrest hagrees
          exact ⟨o, List.mem_append_left _ (List.mem_append_left _ ho), hag⟩
        · obtain ⟨o, ho, hag⟩ := ih hrest hagrees.dropLast
          exact ⟨o, List.mem_append_left _ (List.mem_append_right _ ho), hag⟩
        · have hpush : Agrees (outcome ++ [none]) (comps ++ [part]) := hagrees.push (by simp)
          obtain ⟨o, ho, hag⟩ := ih hrest hpush
          exact ⟨o, List.mem_append_right _ ho, hag⟩

/-! ## The routes under `/api/` -/

/-- An outcome may be these components. -/
def mayBe : List (Option Str) → List Str → Bool
  | [], []           => true
  | o :: os, s :: ss => (o == none || o == some s) && mayBe os ss
  | _, _             => false

theorem mayBe_of_agrees {outcome : List (Option Str)} {comps : List Str} (h : Agrees outcome comps) :
    mayBe outcome comps = true := by
  induction h with
  | nil => rfl
  | @cons o comp os comps ho hrest ih =>
    have hhead : (o == none || o == some comp) = true := by
      cases o with
      | none => rfl
      | some text => simp [ho text rfl]
    rw [mayBe, hhead, ih]
    rfl

/-- What the templates under `/api/` show: their first component stays, and only the download of the certificate and
    the setup normalise to their own paths. -/
def Route.keeps (r : Route) : Bool :=
  (outcomes [] r.template).all fun o =>
    o.head? == some (some (str "api")) && (r == caCertRoute || !mayBe o ["api", "tls", "ca-cert"]) &&
      (r == setupRoute || !mayBe o ["api", "auth", "password"])

theorem routes_keep : (routes.all fun r => !r.underApi || r.keeps) = true := by decide +kernel

/-- A path of a route under `/api/`, in canonical form: it begins with `api`, and it is a path the access check treats
    apart only where the route is that path's own. -/
theorem normpath_of_underApi {r : Route} (hr : r ∈ routes) (hunder : r.underApi = true) {method path : Str}
    (h : r.accepts method path = true) :
    (normpath path = "/api" ∨ Str.startsWith (normpath path) "/api/" = true) ∧
      (normpath path = "/api/tls/ca-cert" → r = caCertRoute) ∧
      (normpath path = "/api/auth/password" → r = setupRoute) := by
  have hkeeps : r.keeps = true := by
    have hall := List.all_eq_true.mp routes_keep r hr
    rwa [hunder, Bool.not_true, Bool.false_or] at hall
  obtain ⟨-, haccepts⟩ := (Bool.and_eq_true _ _).mp h
  obtain ⟨template, htemplate⟩ : ∃ template, r.template = .literal "api" :: template := by
    unfold Route.underApi at hunder
    cases hr : r.template with
    | nil => simp [hr] at hunder
    | cons s template =>
      rw [hr] at hunder
      obtain rfl : s = .literal "api" := by simpa using hunder
      exact ⟨template, rfl⟩
  obtain ⟨parts, hsplit, hparts⟩ : ∃ parts, Str.split (cp '/') path = [] :: str "api" :: parts ∧
      acceptsAll r.template (str "api" :: parts) = true := by
    rw [htemplate] at haccepts ⊢
    match hpath : Str.split (cp '/') path with
    | [] => rw [hpath] at haccepts; cases haccepts
    | [_] => rw [hpath] at haccepts; simp [acceptsAll] at haccepts
    | first :: second :: parts =>
      rw [hpath] at haccepts
      obtain ⟨hfirst, hrest⟩ := (Bool.and_eq_true _ _).mp haccepts
      obtain ⟨hsecond, -⟩ := (Bool.and_eq_true _ _).mp hrest
      obtain rfl : first = [] := by simpa [Segment.accepts] using hfirst
      obtain rfl : second = str "api" := by simpa [Segment.accepts] using hsecond
      exact ⟨parts, rfl, hrest⟩
  have hnorm := normpath_absolute hsplit (by decide)
  obtain ⟨o, ho, hagrees⟩ := exists_outcome hparts (show Agrees [] [] from .nil)
  have hshows := List.all_eq_true.mp hkeeps o ho
  obtain ⟨hshows, hsetup⟩ := (Bool.and_eq_true _ _).mp hshows
  obtain ⟨hhead, hcert⟩ := (Bool.and_eq_true _ _).mp hshows
  generalize hstack : (str "api" :: parts).foldl pushComp [] = stack at hnorm hagrees
  have hslash : ∀ comp ∈ stack, cp '/' ∉ comp := by
    intro comp hcomp
    rw [← hstack] at hcomp
    rcases mem_foldl_pushComp hcomp with hnil | hmem
    · cases hnil
    · have hpart : comp ∈ Str.split (cp '/') path := by
        rw [hsplit]
        exact List.mem_cons_of_mem _ hmem
      exact notMem_of_mem_splitOn hpart
  obtain ⟨tail, rfl⟩ : ∃ tail, stack = str "api" :: tail := by
    cases hagrees with
    | nil => simp at hhead
    | cons hfirst _ =>
      rw [List.head?_cons, beq_iff_eq, Option.some.injEq] at hhead
      exact ⟨_, by rw [hfirst _ hhead]⟩
  -- The text `/a/b/c` stands for the stack `a`, `b`, `c` and no other.
  have hreads : ∀ text comps, Str.split (cp '/') text = comps → normpath path = cp '/' :: text →
      str "api" :: tail = comps := by
    intro text comps hcomps heq
    rw [hnorm, List.cons.injEq] at heq
    rw [← split_joinWith (List.cons_ne_nil _ _) hslash, heq.2, hcomps]
  refine ⟨?_, ?_, ?_⟩
  · rw [hnorm]
    cases tail with
    | nil => exact .inl rfl
    | cons next tail =>
      right
      rw [joinWith]
      · show Str.startsWith (str "/api/" ++ joinWith "/" (next :: tail)) "/api/" = true
        unfold Str.startsWith
        rw [List.isPrefixOf_iff_prefix]
        exact List.prefix_append _ _
      · simp
  · intro heq
    have hcomps := hreads "api/tls/ca-cert" ["api", "tls", "ca-cert"] (by decide +kernel) heq
    rcases (Bool.or_eq_true _ _).mp hcert with hroute | hnot
    · exact beq_iff_eq.mp hroute
    · rw [← hcomps, mayBe_of_agrees hagrees] at hnot
      cases hnot
  · intro heq
    have hcomps := hreads "api/auth/password" ["api", "auth", "password"] (by decide +kernel) heq
    rcases (Bool.or_eq_true _ _).mp hsetup with hroute | hnot
    · exact beq_iff_eq.mp hroute
    · rw [← hcomps, mayBe_of_agrees hagrees] at hnot
      cases hnot

end RideTheApi.Security
