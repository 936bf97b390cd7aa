import Mathlib.Data.List.Induction
import RideTheApi.Lib.Transition
import RideTheApi.Py.Format
import RideTheApi.Security.Access

/-!
# `Security.BodyLimit` — request bodies larger than the caps

The middleware stands between the server and the application: it hands the messages of the server on until the
bodies are over the limit, and then raises into the application; when that lets an error out without having
started a response, the middleware answers 413 itself. The application is a list of acts, so a law over every list
is one over every application.
-/

namespace RideTheApi.Security.BodyLimit

open Py Transition

/-! ## Messages -/

/-- A message of the server to the application. -/
inductive Received where
  | request (body : Bytes) (moreBody : Bool)
  | disconnect
deriving DecidableEq

/-- A message of a response. -/
inductive Sent where
  | start (status : Nat) (headers : List (Bytes × Bytes))
  | body (body : Bytes)
deriving DecidableEq

def Received.size : Received → Nat
  | .request body _ => body.length
  | .disconnect     => 0

/-- The bytes of the bodies. -/
def bodySize (messages : List Received) : Nat := (messages.map Received.size).sum

def Sent.isStart : Sent → Bool
  | .start _ _ => true
  | .body _    => false

/-- `str(n).encode("latin-1")`. -/
def asciiNat (n : Nat) : Bytes := (natStr n).map fun c => Fin.ofNat 256 c.val

/-- `_reply_413`. -/
def reply413 (limit : Nat) : List Sent :=
  let body := ascii "\x7b\"error\": \"Request body exceeds the maximum allowed size (" ++ asciiNat limit ++ ascii " bytes)\"\x7d"
  [.start 413 [(ascii "content-type", ascii "application/json"), (ascii "content-length", asciiNat body.length)], .body body]

/-! ## The declared length -/

def isSpaceByte (b : Byte) : Bool := b.val == 0x20 || (0x09 ≤ b.val && b.val ≤ 0x0d)

def isDigitByte (b : Byte) : Bool := 0x30 ≤ b.val && b.val ≤ 0x39

/-- The digits of `int(bytes)`: groups with an underscore between them, and not too many. -/
def parseDigitBytes (bs : Bytes) : Option Nat :=
  let groups := bs.splitOn 0x5f
  if groups.all (fun group => !group.isEmpty && group.all isDigitByte) ∧ groups.flatten.length ≤ maxStrDigits then
    some (groups.flatten.foldl (fun n b => 10 * n + (b.val - 0x30)) 0)
  else none

/-- `int(bytes)`. -/
def intOfBytes (bs : Bytes) : Option Int :=
  match (bs.dropWhile isSpaceByte).rdropWhile isSpaceByte with
  | []      => none
  | b :: bs =>
    if b = 0x2d then (parseDigitBytes bs).map fun n => -n
    else if b = 0x2b then (parseDigitBytes bs).map Int.ofNat
    else (parseDigitBytes (b :: bs)).map Int.ofNat

/-- `name.lower()` of header bytes. -/
def lowerBytes (bs : Bytes) : Bytes :=
  bs.map fun b => if 0x41 ≤ b.val && b.val ≤ 0x5a then Fin.ofNat 256 (b.val + 0x20) else b

/-- The length the first `Content-Length` header declares, when it reads as a number. -/
def declaredLength (headers : List (Bytes × Bytes)) : Option Int :=
  (headers.find? fun h => lowerBytes h.1 == ascii "content-length").bind fun h => intOfBytes h.2

/-! ## The middleware -/

structure MaxBodySizeMiddleware where
  maxSize : Int
  dataPlaneMaxSize : Int

/-- `_limit_for`; a limit that is not positive is none. -/
def MaxBodySizeMiddleware.limitFor (M : MaxBodySizeMiddleware) (path : Str) : Option Nat :=
  let limit := if isControlPlane path then M.maxSize else M.dataPlaneMaxSize
  if limit ≤ 0 then none else some limit.toNat

/-- What the application does next. -/
inductive Act where
  | receive
  | send (message : Sent)
  | returns
  | raises
deriving DecidableEq

inductive Ended where
  | returned
  | raised
deriving DecidableEq

/-- A call of the middleware: what the server still holds, the three variables, and what went to the application and
    to the server. -/
structure Call where
  inbox : List Received
  received : Nat := 0
  tooLarge : Bool := false
  responseStarted : Bool := false
  delivered : List Received := []
  sent : List Sent := []
  ended : Option Ended := none
deriving DecidableEq

section
variable (limit : Option Nat)

/-- `limit` is set, and `n` is over it. -/
def overLimit (n : Nat) : Bool := limit.any fun limit => limit < n

/-- `guarded_receive`: over the limit an error is raised in place of the message. -/
def guardedReceive (c : Call) (message : Received) (inbox : List Received) : Call :=
  match message with
  | .disconnect       => { c with inbox, delivered := c.delivered ++ [message] }
  | .request body _   =>
    let received := c.received + body.length
    if overLimit limit received then { c with inbox, received, tooLarge := true }
    else { c with inbox, received, delivered := c.delivered ++ [message] }

/-- `send_wrapper`. -/
def sendWrapper (c : Call) (message : Sent) : Call :=
  { c with responseStarted := c.responseStarted || message.isStart, sent := c.sent ++ [message] }

/-- The reply of the middleware. -/
def replyTooLarge (c : Call) : Call :=
  { c with sent := c.sent ++ (limit.map reply413).getD [], ended := some .returned }

/-- An act of the application. It waits for a message when there is none, and does nothing once the call is over. -/
def step (c : Call) (act : Act) : Option Call :=
  match c.ended with
  | some _ => none
  | none   =>
    match act with
    | .receive =>
      match c.inbox with
      | []               => none
      | message :: inbox => some (guardedReceive limit c message inbox)
    | .send message => some (sendWrapper c message)
    | .returns      => some { c with ended := some .returned }
    | .raises       =>
      if c.tooLarge && !c.responseStarted then some (replyTooLarge limit c) else some { c with ended := some .raised }

/-- The call as it starts: a declared length over the limit is answered up front. -/
def start (headers : List (Bytes × Bytes)) (inbox : List Received) : Call :=
  match limit, declaredLength headers with
  | some l, some declared => if (l : Int) < declared then replyTooLarge limit { inbox } else { inbox }
  | _, _                  => { inbox }

end

/-- `MaxBodySizeMiddleware.__call__`. -/
def MaxBodySizeMiddleware.serve (M : MaxBodySizeMiddleware) (path : Str) (headers : List (Bytes × Bytes))
    (inbox : List Received) (run : List Act) : Option Call :=
  exec (step (M.limitFor path)) (start (M.limitFor path) headers inbox) run

/-! ## A call that is not over -/

/-- The messages an application sent. -/
def sends (run : List Act) : List Sent :=
  run.filterMap fun
    | .send message => some message
    | _             => none

/-- The messages it asked for. -/
def taken (inbox : List Received) (run : List Act) : List Received := inbox.take (run.count .receive)

/-- A call in which the application has done `run`. -/
structure Running (limit : Nat) (inbox : List Received) (run : List Act) (c : Call) : Prop where
  left : taken inbox run ++ c.inbox = inbox
  received : c.received = bodySize (taken inbox run)
  tooLarge : c.tooLarge = decide (limit < c.received)
  started : c.responseStarted = (sends run).any Sent.isStart
  bounded : bodySize c.delivered ≤ limit
  whole : c.received ≤ limit → c.delivered = taken inbox run
  sent : c.sent = sends run
  ended : c.ended = none

section
variable {limit : Nat} {inbox : List Received} {run : List Act} {c c' : Call} {act : Act}

@[simp] theorem bodySize_append (as bs : List Received) : bodySize (as ++ bs) = bodySize as + bodySize bs := by
  simp [bodySize]

@[simp] theorem bodySize_singleton (m : Received) : bodySize [m] = m.size := by simp [bodySize]

/-- The last act is of a call that has not ended. -/
theorem lastAct (h : exec (step (some limit)) c (run ++ [act]) = some c') :
    ∃ d, exec (step (some limit)) c run = some d ∧ d.ended = none ∧ step (some limit) d act = some c' := by
  obtain ⟨d, hd, hstep⟩ := exec_snoc h
  refine ⟨d, hd, ?_, hstep⟩
  cases hended : d.ended with
  | none => rfl
  | some _ =>
    unfold step at hstep
    rw [hended] at hstep
    cases hstep

theorem Running.init (limit : Nat) (inbox : List Received) : Running limit inbox [] { inbox } where
  left := rfl
  received := rfl
  tooLarge := by simp
  started := rfl
  bounded := Nat.zero_le _
  whole _ := rfl
  sent := rfl
  ended := rfl

/-- The next message is taken. -/
theorem taken_snoc {m : Received} {rest : List Received} (h : taken inbox run ++ m :: rest = inbox) :
    taken inbox (run ++ [.receive]) = taken inbox run ++ [m] := by
  have hlength : (taken inbox run).length = run.count .receive := by
    have hle : run.count .receive < inbox.length := by
      by_contra hge
      have hall : taken inbox run = inbox := List.take_of_length_le (not_lt.mp hge)
      rw [hall] at h
      simpa using congrArg List.length h
    unfold taken
    rw [List.length_take]
    omega
  have hcount : (run ++ [Act.receive]).count Act.receive = (taken inbox run).length + 1 := by
    rw [hlength, List.count_append]
    simp
  calc taken inbox (run ++ [.receive]) = (taken inbox run ++ m :: rest).take ((taken inbox run).length + 1) := by
        rw [h, ← hcount]
        rfl
    _ = taken inbox run ++ [m] := by
        rw [List.take_length_add_append]
        rfl

theorem Running.receive (h : Running limit inbox run c) {m : Received} {rest : List Received} (hinbox : c.inbox = m :: rest) :
    Running limit inbox (run ++ [.receive]) (guardedReceive (some limit) c m rest) := by
  have hnext := h.left
  rw [hinbox] at hnext
  have htaken := taken_snoc hnext
  have hsplit : taken inbox (run ++ [.receive]) ++ rest = inbox := by
    rw [htaken, List.append_assoc]
    exact hnext
  have hsends : sends (run ++ [.receive]) = sends run := by simp [sends]
  cases m with
  | disconnect =>
    constructor
    · exact hsplit
    · rw [htaken, bodySize_append]
      simpa [guardedReceive, Received.size] using h.received
    · exact h.tooLarge
    · rw [hsends]
      exact h.started
    · simpa [guardedReceive, Received.size] using h.bounded
    · intro hle
      rw [htaken]
      simp only [guardedReceive] at hle ⊢
      rw [h.whole hle]
    · rw [hsends]
      exact h.sent
    · exact h.ended
  | request body moreBody =>
    have hreceived : c.received + body.length = bodySize (taken inbox (run ++ [.receive])) := by
      rw [htaken, bodySize_append, bodySize_singleton, h.received]
      rfl
    unfold guardedReceive overLimit
    simp only [Option.any_some]
    -- crossing the limit marks the request and delivers nothing more
    by_cases hover : limit < c.received + body.length
    · simp only [hover, decide_true, if_true]
      constructor
      · exact hsplit
      · exact hreceived
      · simp [hover]
      · rw [hsends]
        exact h.started
      · exact h.bounded
      · intro hle
        dsimp only at hle
        omega
      · rw [hsends]
        exact h.sent
      · exact h.ended
    · simp only [hover, decide_false, Bool.false_eq_true, if_false]
      have hdelivered : c.delivered = taken inbox run := h.whole (by omega)
      constructor
      · exact hsplit
      · exact hreceived
      · have hbefore := h.tooLarge
        rw [hbefore, decide_eq_decide]
        dsimp only
        omega
      · rw [hsends]
        exact h.started
      · rw [bodySize_append, hdelivered, ← h.received, bodySize_singleton]
        simp only [Received.size]
        omega
      · intro _
        rw [htaken, hdelivered]
      · rw [hsends]
        exact h.sent
      · exact h.ended

theorem Running.send (h : Running limit inbox run c) (m : Sent) : Running limit inbox (run ++ [.send m]) (sendWrapper c m) := by
  have htaken : taken inbox (run ++ [.send m]) = taken inbox run := by
    unfold taken
    rw [List.count_append]
    simp
  have hsends : sends (run ++ [.send m]) = sends run ++ [m] := by simp [sends]
  constructor
  · rw [htaken]
    exact h.left
  · rw [htaken]
    exact h.received
  · exact h.tooLarge
  · rw [hsends]
    simp [sendWrapper, h.started]
  · exact h.bounded
  · rw [htaken]
    exact h.whole
  · rw [hsends]
    simp [sendWrapper, h.sent]
  · exact h.ended

theorem running_of_exec (h : exec (step (some limit)) { inbox } run = some c) (hended : c.ended = none) :
    Running limit inbox run c := by
  induction run using List.reverseRecOn generalizing c with
  | nil =>
    cases h
    exact .init limit inbox
  | append_singleton run act ih =>
    obtain ⟨d, hd, hdended, hstep⟩ := lastAct h
    have hrunning := ih hd hdended
    unfold step at hstep
    rw [hdended] at hstep
    cases act with
    | receive =>
      cases hinbox : d.inbox with
      | nil =>
        simp only [hinbox] at hstep
        cases hstep
      | cons m rest =>
        simp only [hinbox] at hstep
        obtain rfl := Option.some.inj hstep
        exact hrunning.receive hinbox
    | send m =>
      obtain rfl := Option.some.inj hstep
      exact hrunning.send m
    | returns =>
      obtain rfl := Option.some.inj hstep
      cases hended
    | raises =>
      dsimp only at hstep
      split at hstep
      all_goals
        obtain rfl := Option.some.inj hstep
        cases hended

/-! ## The law -/

/-- The starts of a response. -/
def starts (messages : List Sent) : Nat := messages.countP Sent.isStart

/-- What the middleware keeps to in a call: the application is handed no more than the limit, and all of a body that
    is within it. A declared length over the limit is answered 413, and so is a body over it when the application
    raises with no response started. The reply of the middleware is the only start it adds, and the first. -/
structure Limits (limit : Nat) (headers : List (Bytes × Bytes)) (inbox : List Received) (run : List Act) (c : Call) :
    Prop where
  bounded : bodySize c.delivered ≤ limit
  whole : bodySize inbox ≤ limit → (∀ n ∈ declaredLength headers, n ≤ limit) → c.delivered ++ c.inbox = inbox
  declared : (∃ n ∈ declaredLength headers, (limit : Int) < n) → c.sent = reply413 limit ∧ c.delivered = []
  tooLarge : ∀ acts, run = acts ++ [.raises] → limit < bodySize (taken inbox acts) → starts (sends acts) = 0 →
    c.sent = sends acts ++ reply413 limit
  sent : c.sent = sends run ∨ starts (sends run) = 0 ∧ c.sent = sends run ++ reply413 limit
  starts : starts c.sent ≤ max 1 (starts (sends run))

theorem starts_reply413 (limit : Nat) : starts (reply413 limit) = 1 := rfl

theorem starts_eq_zero {messages : List Sent} : starts messages = 0 ↔ messages.any Sent.isStart = false := by
  unfold starts
  rw [List.countP_eq_zero, List.any_eq_false]

/-- What is sent settles how many responses are started. -/
theorem starts_le (h : c.sent = sends run ∨ starts (sends run) = 0 ∧ c.sent = sends run ++ reply413 limit) :
    starts c.sent ≤ max 1 (starts (sends run)) := by
  rcases h with h | ⟨hnone, h⟩
  · rw [h]
    exact le_max_right _ _
  · have happend : starts (sends run ++ reply413 limit) = starts (sends run) + starts (reply413 limit) :=
      List.countP_append
    rw [h, happend, hnone, starts_reply413]
    exact le_max_left _ _

/-- A body within the limit is handed over as it comes. -/
theorem Running.kept (h : Running limit inbox run c) (hle : bodySize inbox ≤ limit) : c.delivered ++ c.inbox = inbox := by
  have htaken : bodySize inbox = bodySize (taken inbox run) + bodySize c.inbox := by
    rw [← bodySize_append, h.left]
  have hreceived := h.received
  rw [h.whole (by omega)]
  exact h.left

/-- A call keeps to the law by what it sent, when the application was handed what it was while the call went on. -/
theorem Running.limits {headers : List (Bytes × Bytes)} {acts : List Act} (h : Running limit inbox acts c)
    (hdeclared : ∀ n ∈ declaredLength headers, n ≤ limit) (hdelivered : c'.delivered = c.delivered)
    (hinbox : c'.inbox = c.inbox)
    (hsent : c'.sent = sends run ∨ starts (sends run) = 0 ∧ c'.sent = sends run ++ reply413 limit)
    (htooLarge : ∀ acts, run = acts ++ [.raises] → limit < bodySize (taken inbox acts) → starts (sends acts) = 0 →
      c'.sent = sends acts ++ reply413 limit) : Limits limit headers inbox run c' where
  bounded := by
    rw [hdelivered]
    exact h.bounded
  whole hle _ := by
    rw [hdelivered, hinbox]
    exact h.kept hle
  declared := by
    rintro ⟨n, hn, hlt⟩
    have hle := hdeclared n hn
    omega
  tooLarge := htooLarge
  sent := hsent
  starts := starts_le hsent

/-- What the application ends with. -/
theorem limits_of_exec {headers : List (Bytes × Bytes)} (hdeclared : ∀ n ∈ declaredLength headers, n ≤ limit)
    (h : exec (step (some limit)) { inbox } run = some c) : Limits limit headers inbox run c := by
  cases run using List.reverseRecOn with
  | nil =>
    cases h
    exact (Running.init limit inbox).limits hdeclared rfl rfl (.inl rfl) (by simp)
  | append_singleton acts act =>
    obtain ⟨d, hd, hended, hstep⟩ := lastAct h
    have hrunning := running_of_exec hd hended
    -- the last step decides: only a raise can add the 413
    cases act with
    | receive =>
      cases hc : c.ended with
      | none =>
        have hafter := running_of_exec h hc
        exact hafter.limits hdeclared rfl rfl (.inl hafter.sent) (by simp)
      | some _ =>
        unfold step at hstep
        rw [hended] at hstep
        cases hinbox : d.inbox with
        | nil =>
          simp only [hinbox] at hstep
          cases hstep
        | cons m rest =>
          simp only [hinbox] at hstep
          obtain rfl := Option.some.inj hstep
          rw [(hrunning.receive hinbox).ended] at hc
          cases hc
    | send m =>
      unfold step at hstep
      rw [hended] at hstep
      obtain rfl := Option.some.inj hstep
      have hafter := hrunning.send m
      exact hafter.limits hdeclared rfl rfl (.inl hafter.sent) (by simp)
    | returns =>
      unfold step at hstep
      rw [hended] at hstep
      obtain rfl := Option.some.inj hstep
      have hsends : sends (acts ++ [.returns]) = sends acts := by simp [sends]
      exact hrunning.limits hdeclared rfl rfl (.inl (by rw [hsends]; exact hrunning.sent)) (by simp)
    | raises =>
      have hsends : sends (acts ++ [.raises]) = sends acts := by simp [sends]
      unfold step at hstep
      rw [hended] at hstep
      dsimp only at hstep
      -- The middleware answers when the limit was crossed and no response was started.
      split at hstep
      · rename_i hanswers
        obtain rfl := Option.some.inj hstep
        rw [Bool.and_eq_true, Bool.not_eq_true', hrunning.started, ← starts_eq_zero] at hanswers
        have hsent : (replyTooLarge (some limit) d).sent = sends acts ++ reply413 limit := by
          rw [← hrunning.sent]
          rfl
        have hreply : starts (sends (acts ++ [.raises])) = 0 ∧
            (replyTooLarge (some limit) d).sent = sends (acts ++ [.raises]) ++ reply413 limit := by
          rw [hsends]
          exact ⟨hanswers.2, hsent⟩
        refine hrunning.limits hdeclared rfl rfl (.inr hreply) ?_
        intro acts' hacts' _ _
        obtain ⟨rfl, _⟩ := List.append_inj' hacts' rfl
        exact hsent
      · rename_i hsilent
        obtain rfl := Option.some.inj hstep
        refine hrunning.limits hdeclared rfl rfl (.inl (by rw [hsends]; exact hrunning.sent)) ?_
        intro acts' hacts' hover hnone
        obtain ⟨rfl, _⟩ := List.append_inj' hacts' rfl
        exfalso
        apply hsilent
        rw [Bool.and_eq_true, Bool.not_eq_true', hrunning.started, ← starts_eq_zero, hrunning.tooLarge, hrunning.received]
        exact ⟨by simpa using hover, hnone⟩

/-- A call that is over takes no act. -/
theorem exec_ended (hended : c.ended = some .returned) (h : exec (step (some limit)) c run = some c') :
    run = [] ∧ c' = c := by
  cases run with
  | nil =>
    cases h
    exact ⟨rfl, rfl⟩
  | cons act run =>
    obtain ⟨d, hd, _⟩ := Option.bind_eq_some_iff.mp h
    unfold step at hd
    rw [hended] at hd
    cases hd

end

/-- **The body size limit holds for every chunking and every application.** -/
theorem serve_limits {M : MaxBodySizeMiddleware} {path : Str} {headers : List (Bytes × Bytes)} {inbox : List Received}
    {run : List Act} {limit : Nat} {c : Call} (hlimit : M.limitFor path = some limit)
    (h : M.serve path headers inbox run = some c) : Limits limit headers inbox run c := by
  unfold MaxBodySizeMiddleware.serve at h
  rw [hlimit] at h
  by_cases hdeclared : ∃ n ∈ declaredLength headers, (limit : Int) < n
  · obtain ⟨n, hn, hlt⟩ := hdeclared
    have hstart : start (some limit) headers inbox = replyTooLarge (some limit) { inbox } := by
      unfold start
      rw [Option.mem_def.mp hn]
      exact if_pos hlt
    rw [hstart] at h
    obtain ⟨rfl, rfl⟩ := exec_ended rfl h
    have hnone : starts (sends []) = 0 := rfl
    constructor
    · exact Nat.zero_le _
    · intro _ hle
      have := hle n hn
      omega
    · intro _
      exact ⟨rfl, rfl⟩
    · intro acts hacts
      simp at hacts
    · exact .inr ⟨hnone, rfl⟩
    · exact starts_le (.inr ⟨hnone, rfl⟩)
  · have hle : ∀ n ∈ declaredLength headers, n ≤ limit := by
      intro n hn
      by_contra hgt
      exact hdeclared ⟨n, hn, by omega⟩
    have hstart : start (some limit) headers inbox = { inbox } := by
      unfold start
      cases hn : declaredLength headers with
      | none => rfl
      | some n =>
        have := hle n hn
        exact if_neg (by omega)
    rw [hstart] at h
    exact limits_of_exec hle h

/-! ## Chunks of four bytes -/

def tenBytes : MaxBodySizeMiddleware where
  maxSize := 10
  dataPlaneMaxSize := 0

def chunk : Bytes := ascii "aaaa"

/-- A body of three chunks, without a declared length. -/
def threeChunks : List Received := [.request chunk true, .request chunk true, .request chunk false]

/-- The application reads the body; the third chunk is too much, and the error gets out of it. -/
theorem threeChunks_limits :
    ∃ c, tenBytes.serve "/api/echo" [] threeChunks [.receive, .receive, .receive, .raises] = some c ∧
      c.sent = reply413 10 ∧
      Limits 10 [] threeChunks [.receive, .receive, .receive, .raises] c :=
  have hlimit : tenBytes.limitFor "/api/echo" = some 10 := by decide +kernel
  ⟨_, rfl, by decide +kernel, serve_limits hlimit rfl⟩

/-- What is asked for to the letter: one start at most, and 413 for a body over the limit that the application has not
    answered when it is done. -/
structure Answers413 (limit : Nat) (inbox : List Received) (run : List Act) (c : Call) : Prop where
  once : starts c.sent ≤ 1
  tooLarge : limit < bodySize (taken inbox run) → c.ended ≠ none → starts (sends run) = 0 →
    c.sent = sends run ++ reply413 limit

/-- An application that starts two responses gets both through; one that keeps the error to itself and ends without a
    response is not answered for. -/
theorem twoStarts_sent :
    (¬ ∀ (M : MaxBodySizeMiddleware) path headers inbox run limit c, M.limitFor path = some limit →
      M.serve path headers inbox run = some c → Answers413 limit inbox run c) ∧
    ¬ ∀ c, tenBytes.serve "/api/echo" [] threeChunks [.receive, .receive, .receive, .returns] = some c →
      Answers413 10 threeChunks [.receive, .receive, .receive, .returns] c := by
  constructor
  · intro h
    have hone := (h tenBytes "/api/echo" [] [] [.send (.start 200 []), .send (.start 500 [])] 10 _ (by decide +kernel) rfl).once
    revert hone
    decide +kernel
  · intro h
    have hreply := (h _ rfl).tooLarge (by decide +kernel) (by decide +kernel) (by decide +kernel)
    revert hreply
    decide +kernel

end RideTheApi.Security.BodyLimit
