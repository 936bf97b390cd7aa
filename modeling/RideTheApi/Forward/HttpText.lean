import RideTheApi.Forward.ReplaySafety

/-!
# `Forward.HttpText` — HTTP/1.1 as text, and an answer that is lost

A writer and a reader of HTTP/1.1 messages that meet what `HttpLibrary` asks: a status line, header lines and a body up to
the close. With them an answer to HEAD that announces a length is shown to be lost.
-/

namespace RideTheApi.Forward

open Py

def cr : Byte := 0x0d
def colon : Byte := 0x3a
def crlf : Bytes := [0x0d, 0x0a]

instance (method : Str) (status : Nat) : Decidable (bodiless method status) :=
  inferInstanceAs (Decidable (method = "HEAD" ∨ status = 204 ∨ status = 304))

/-! ## Writing -/

/-- `name: value`. -/
def headerLine (h : Bytes × Bytes) : Bytes := h.1 ++ (colon :: 0x20 :: (h.2 ++ crlf))

/-- `HTTP/1.1 200 OK`. -/
def statusLine (status : Nat) (reason : Bytes) : Bytes :=
  headerBytes "HTTP/1.1 " ++ (Fin.ofNat 256 (0x30 + status / 100) :: Fin.ofNat 256 (0x30 + status / 10 % 10) ::
    Fin.ofNat 256 (0x30 + status % 10) :: 0x20 :: (reason ++ crlf))

def contradictory (headers : Headers) : Bool :=
  headers.any fun h => headers.any fun h' => h.1 == contentLength && h'.1 == contentLength && h.2 != h'.2

/-- A chunked answer is sent up to the close instead, without the headers that say otherwise. -/
def sentHeaders (headers : Headers) : Headers :=
  if headers.any fun h => h.1 == transferEncoding then
    headers.filter fun h => h.1 != contentLength && h.1 != transferEncoding
  else headers

def writeText (status : Nat) (reason : Bytes) (headers : Headers) (body : Bytes) : Option Bytes :=
  if contradictory headers ∨ cr ∈ reason ∨ status < 200 ∨ 1000 ≤ status then none
  else some (statusLine status reason ++ ((sentHeaders headers).flatMap headerLine ++ (crlf ++ body)))

/-! ## Reading -/

/-- The header lines and what follows the empty line. -/
def readLines : Nat → Bytes → Option (Headers × Bytes)
  | 0, _         => none
  | fuel + 1, bs =>
    if bs.take 2 = crlf then some ([], bs.drop 2)
    else
      let afterName := (bs.dropWhile (· != colon)).drop 2
      (readLines fuel ((afterName.dropWhile (· != cr)).drop 2)).map fun rest =>
        ((bs.takeWhile (· != colon), afterName.takeWhile (· != cr)) :: rest.1, rest.2)

def statusOf (bs : Bytes) : Nat :=
  match bs.drop 9 with
  | a :: b :: c :: _ => 100 * (a.val - 0x30) + 10 * (b.val - 0x30) + (c.val - 0x30)
  | _                => 0

def parseText (method : Str) (bs : Bytes) : Option Message :=
  (readLines (bs.length + 1) ((bs.dropWhile (· != cr)).drop 2)).map fun rest =>
    { status := statusOf bs, headers := rest.1, body := if bodiless method (statusOf bs) then [] else rest.2 }

/-- A name is not empty and has neither a colon nor a line end; a value has no line end. -/
def legalLine (h : Bytes × Bytes) : Prop := h.1 ≠ [] ∧ colon ∉ h.1 ∧ cr ∉ h.1 ∧ cr ∉ h.2

/-! ## The reader undoes the writer -/

theorem takeWhile_stop {c : Byte} {bs : Bytes} (rest : Bytes) (h : c ∉ bs) :
    (bs ++ c :: rest).takeWhile (· != c) = bs ∧ (bs ++ c :: rest).dropWhile (· != c) = c :: rest := by
  induction bs with
  | nil => simp
  | cons b bs ih =>
    have hb : (b != c) = true := by
      rw [bne_iff_ne]
      rintro rfl
      exact h List.mem_cons_self
    obtain ⟨htake, hdrop⟩ := ih fun hmem => h (List.mem_cons_of_mem _ hmem)
    rw [List.cons_append, List.takeWhile_cons, List.dropWhile_cons, if_pos hb, if_pos hb, htake, hdrop]
    exact ⟨rfl, rfl⟩

theorem readLines_headers {headers : Headers} (h : ∀ line ∈ headers, legalLine line) (body : Bytes) (fuel : Nat)
    (hfuel : headers.length < fuel) : readLines fuel (headers.flatMap headerLine ++ (crlf ++ body)) = some (headers, body) := by
  induction headers generalizing fuel with
  | nil =>
    obtain ⟨fuel, rfl⟩ : ∃ k, fuel = k + 1 := ⟨fuel - 1, by simp at hfuel; omega⟩
    rw [readLines]
    exact if_pos rfl
  | cons line headers ih =>
    obtain ⟨fuel, rfl⟩ : ∃ k, fuel = k + 1 := ⟨fuel - 1, by simp at hfuel; omega⟩
    obtain ⟨hne, hcolon, hname, hvalue⟩ := h line List.mem_cons_self
    have hrest := ih (fun l hl => h l (List.mem_cons_of_mem _ hl)) fuel (by simp at hfuel; omega)
    have hbytes : (line :: headers).flatMap headerLine ++ (crlf ++ body) =
        line.1 ++ colon :: (0x20 :: (line.2 ++ cr :: (0x0a :: (headers.flatMap headerLine ++ (crlf ++ body))))) := by
      simp [headerLine, crlf, cr]
    obtain ⟨htake, hdrop⟩ := takeWhile_stop (0x20 :: (line.2 ++ cr ::
      (0x0a :: (headers.flatMap headerLine ++ (crlf ++ body))))) hcolon
    obtain ⟨htake', hdrop'⟩ := takeWhile_stop (0x0a :: (headers.flatMap headerLine ++ (crlf ++ body))) hvalue
    have hfirst : (line.1 ++ colon :: (0x20 :: (line.2 ++ cr :: (0x0a ::
        (headers.flatMap headerLine ++ (crlf ++ body)))))).take 2 ≠ crlf := by
      obtain ⟨b, name, hcons⟩ := List.exists_cons_of_ne_nil hne
      rw [hcons] at hname ⊢
      intro heq
      have hb : b = cr := by
        have := congrArg List.head? heq
        simpa [crlf, cr] using this
      exact hname (hb ▸ List.mem_cons_self)
    rw [hbytes, readLines, if_neg hfirst]
    simp only [htake, hdrop, List.drop_succ_cons, List.drop_zero, htake', hdrop', hrest, Option.map_some]

theorem endToEnd_sentHeaders (headers : Headers) : endToEnd (sentHeaders headers) = endToEnd headers := by
  have hlength : hopByHopHeaders.contains (decodeLatin1 contentLength) = true := by decide +kernel
  have hcoding : hopByHopHeaders.contains (decodeLatin1 transferEncoding) = true := by decide +kernel
  unfold sentHeaders
  split_ifs with h
  · unfold endToEnd
    rw [List.filter_filter]
    refine List.filter_congr fun line _ => ?_
    cases hfar : isEndToEnd line with
    | false => rfl
    | true =>
      unfold isEndToEnd at hfar
      have hnot : line.1 ≠ contentLength ∧ line.1 ≠ transferEncoding := by
        constructor
        · intro heq
          rw [heq, hlength] at hfar
          cases hfar
        · intro heq
          rw [heq, hcoding] at hfar
          cases hfar
      simp [hnot]
  · rfl

theorem mem_sentHeaders {headers : Headers} {h : Bytes × Bytes} (hmem : h ∈ sentHeaders headers) : h ∈ headers := by
  unfold sentHeaders at hmem
  split_ifs at hmem
  · exact (List.mem_filter.mp hmem).1
  · exact hmem

theorem statusOf_statusLine {status : Nat} (hlt : status < 1000) (reason rest : Bytes) :
    statusOf (statusLine status reason ++ rest) = status := by
  have hdrop : (statusLine status reason ++ rest).drop 9 = Fin.ofNat 256 (0x30 + status / 100) ::
      Fin.ofNat 256 (0x30 + status / 10 % 10) :: Fin.ofNat 256 (0x30 + status % 10) :: 0x20 ::
        (reason ++ crlf ++ rest) := by
    have hpre : (headerBytes "HTTP/1.1 ").length = 9 := by decide +kernel
    unfold statusLine
    rw [List.append_assoc, List.drop_append_of_le_length (by rw [hpre]), ← hpre, List.drop_length]
    rfl
  unfold statusOf
  rw [hdrop]
  show 100 * ((0x30 + status / 100) % 256 - 0x30) + 10 * ((0x30 + status / 10 % 10) % 256 - 0x30) +
    ((0x30 + status % 10) % 256 - 0x30) = status
  omega

theorem dropWhile_statusLine {status : Nat} (hlt : status < 1000) {reason : Bytes} (hreason : cr ∉ reason)
    (rest : Bytes) : ((statusLine status reason ++ rest).dropWhile (· != cr)).drop 2 = rest := by
  have hline : cr ∉ headerBytes "HTTP/1.1 " ++ (Fin.ofNat 256 (0x30 + status / 100) ::
      Fin.ofNat 256 (0x30 + status / 10 % 10) :: Fin.ofNat 256 (0x30 + status % 10) :: 0x20 :: reason) := by
    have hpre : cr ∉ headerBytes "HTTP/1.1 " := by decide +kernel
    have hdigit : ∀ n, 0x30 ≤ n → n ≤ 0x39 → cr ≠ Fin.ofNat 256 n := by
      intro n hlow hhigh heq
      have hval : 0x0d = n % 256 := congrArg Fin.val heq
      omega
    rw [List.mem_append, List.mem_cons, List.mem_cons, List.mem_cons, List.mem_cons]
    rintro (h | h | h | h | h | h)
    · exact hpre h
    · exact hdigit _ (by omega) (by omega) h
    · exact hdigit _ (by omega) (by omega) h
    · exact hdigit _ (by omega) (by omega) h
    · exact absurd h (by decide)
    · exact hreason h
  have hbytes : statusLine status reason ++ rest = (headerBytes "HTTP/1.1 " ++ (Fin.ofNat 256 (0x30 + status / 100) ::
      Fin.ofNat 256 (0x30 + status / 10 % 10) :: Fin.ofNat 256 (0x30 + status % 10) :: 0x20 :: reason)) ++
        cr :: (0x0a :: rest) := by
    simp [statusLine, crlf, cr]
  rw [hbytes, (takeWhile_stop _ hline).2]
  rfl

theorem parseText_writeText {method : Str} {status : Nat} {reason body bytes : Bytes} {headers : Headers}
    (hlegal : ∀ h ∈ headers, legalLine h) (hbody : bodiless method status → body = [])
    (h : writeText status reason headers body = some bytes) :
    ∃ message, parseText method bytes = some message ∧ message.status = status ∧ message.body = body ∧
      endToEnd message.headers = endToEnd headers := by
  unfold writeText at h
  split_ifs at h with hrefused
  push Not at hrefused
  obtain ⟨-, hreason, -, hlt⟩ := hrefused
  obtain rfl := Option.some.inj h
  have hlines := readLines_headers (fun line hline => hlegal line (mem_sentHeaders hline)) body
    ((statusLine status reason ++ ((sentHeaders headers).flatMap headerLine ++ (crlf ++ body))).length + 1)
    (by
      have hlen : (sentHeaders headers).length ≤ ((sentHeaders headers).flatMap headerLine).length := by
        induction sentHeaders headers with
        | nil => exact Nat.le_refl _
        | cons line lines ih =>
          rw [List.flatMap_cons, List.length_append, List.length_cons]
          have hline : 0 < (headerLine line).length := by simp [headerLine]
          omega
      rw [List.length_append, List.length_append]
      omega)
  have hparse : parseText method (statusLine status reason ++ ((sentHeaders headers).flatMap headerLine ++ (crlf ++ body))) =
      some { status, headers := sentHeaders headers, body := if bodiless method status then [] else body } := by
    unfold parseText
    rw [dropWhile_statusLine hlt hreason, hlines, statusOf_statusLine hlt]
    rfl
  refine ⟨_, hparse, rfl, ?_, endToEnd_sentHeaders headers⟩
  show (if bodiless method status then [] else body) = body
  split_ifs with hbodiless
  · exact (hbody hbodiless).symm
  · rfl

theorem contradictory_of_ne {headers : Headers} {value value' : Bytes} (h : (contentLength, value) ∈ headers)
    (h' : (contentLength, value') ∈ headers) (hne : value ≠ value') : contradictory headers = true := by
  unfold contradictory
  rw [List.any_eq_true]
  refine ⟨_, h, ?_⟩
  rw [List.any_eq_true]
  exact ⟨_, h', by simp [hne]⟩

theorem not_contradictory {headers : Headers} {value : Bytes} (h : ∀ h ∈ headers, h.1 = contentLength → h.2 = value) :
    contradictory headers = false := by
  unfold contradictory
  rw [List.any_eq_false]
  intro line hline hany
  obtain ⟨line', hline', hboth⟩ := List.any_eq_true.mp hany
  simp only [Bool.and_eq_true, beq_iff_eq, bne_iff_ne] at hboth
  exact hboth.2 ((h line hline hboth.1.1).trans (h line' hline' hboth.1.2).symm)

theorem cr_notMem_decimal (n : Nat) : cr ∉ decimal n := by
  intro hmem
  have hdigit := Upstream.decimal_digits cr hmem
  exact absurd hdigit.1 (by decide)

/-- The text writer and reader meet what the code relies on. -/
def httpText : HttpLibrary where
  phrase := fun status => if status = 200 then some (headerBytes "OK") else none
  write := writeText
  parse := parseText
  legal := legalLine
  legal_length := fun n =>
    have hname : contentLength ≠ [] ∧ colon ∉ contentLength ∧ cr ∉ contentLength := by decide +kernel
    ⟨hname.1, hname.2.1, hname.2.2, cr_notMem_decimal n⟩
  legal_close := ⟨by decide +kernel, by decide +kernel, by decide +kernel, by decide +kernel⟩
  legal_json := ⟨by decide +kernel, by decide +kernel, by decide +kernel, by decide +kernel⟩
  writes := by
    intro status headers body hge hlt _ _ hlength _ _ _
    have hreason : cr ∉ ((if status = 200 then some (headerBytes "OK") else none).getD (headerBytes "OK")) := by
      split_ifs <;> decide +kernel
    unfold writeText
    rw [if_neg]
    · rfl
    · rintro (h | h | h | h)
      · rw [not_contradictory hlength] at h
        cases h
      · exact hreason h
      · omega
      · omega
  refuses := by
    intro status reason headers body value value' h h' hne _ _
    exact if_pos (.inl (contradictory_of_ne h h' hne))
  parse_write := fun _ _ _ _ _ _ hlegal hbody h => parseText_writeText hlegal hbody h

/-! ## An answer that is lost -/

/-- A library that takes every request. -/
def sendAny : HttpClient := { send := fun _ _ _ _ => some [] }

/-- A HEAD request answered with the length the body of a GET would have. -/
def headAnswer : Upstream bitsInterp httpText where
  client := sendAny
  request := { hostname := "cloud.example", port := 443, method := "HEAD", path := "/", headers := [], body := none }
  link :=
    { connects := true
      drained := true
      delivered := true
      events := [.response 200 [(contentLength, headerBytes "5")], .endOfMessage] }
  answer := { status := 200, headers := [(contentLength, headerBytes "5")], body := [] }
  carried := rfl
  accepted := ⟨_, rfl⟩
  status_ge := by decide
  status_lt := by decide
  legal := by
    intro h hmem
    rw [List.mem_singleton.mp hmem]
    exact ⟨by decide +kernel, by decide +kernel, by decide +kernel, by decide +kernel⟩
  names := by decide +kernel
  lengths := by decide +kernel
  length_once := by decide +kernel
  codings := by decide +kernel
  bodiless_body := fun _ => rfl

/-- The answer contradicts the length the listener adds, and the device gets nothing. -/
theorem not_faithful_headAnswer : ¬ ∀ (u : Upstream bitsInterp httpText) (encrypt : Bytes → Bytes) (drains : Bool)
    (ip : Str) (ips : List Str) (links : List Link), u.Faithful bitsReader encrypt drains ip ips links := by
  intro hall
  have hlength := (headAnswer.conditions_of_faithful (hall headAnswer id true "8.8.8.8" [] [])).2.1
  exact absurd (hlength (contentLength, headerBytes "5") List.mem_cons_self rfl) (by decide +kernel)

end RideTheApi.Forward
