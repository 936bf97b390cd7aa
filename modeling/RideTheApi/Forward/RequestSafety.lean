import RideTheApi.Forward.Request
import RideTheApi.Py.JsonAscii
import RideTheApi.Py.QuoteRoundTrip

/-!
# `Forward.RequestSafety` — the target and the body mean upstream what they meant here

A request target that is rebuilt is visible ASCII, and what reads a target finds the path and the parameters in it that
it was rebuilt from (`requestTarget_readBack`). A body that is sent, raw or written anew, is read as the parsed body
(`requestBodyBytes_means`).
-/

namespace RideTheApi.Forward

open Py JsonGrammar

variable {I : Interp} {F : FloatReader I} {request : InterceptedRequest} {target : Str}

/-! ## The target -/

theorem targetSafe_ascii : ∀ c ∈ targetSafe, visible c = true := List.all_eq_true.mp rfl

/-- The path that is sent. -/
def InterceptedRequest.sentPath (request : InterceptedRequest) : Str :=
  if request.path.isEmpty then "/" else request.path

/-- A target that is rebuilt is the quoted path and the query. -/
theorem requestTarget_cases (hraw : request.rawTarget.getD [] = []) (h : requestTarget request = some target) :
    ∃ path, quote request.sentPath targetSafe = some path ∧
      ((request.queryParams = [] ∧ target = path) ∨
        ∃ query sep, urlencode request.queryParams = some query ∧ (sep = cp '&' ∨ sep = cp '?') ∧
          (cp '?' ∉ request.path → sep = cp '?') ∧ target = path ++ sep :: query) := by
  have hrebuilt : requestTarget request = (do
      let path ← quote request.sentPath targetSafe
      if request.queryParams.isEmpty then pure path
      else
        let query ← urlencode request.queryParams
        pure (path ++ (if path.contains (cp '?') then str "&" else str "?") ++ query)) := by
    unfold requestTarget
    split
    · next c raw heq => simp [heq] at hraw
    · rfl
  rw [hrebuilt] at h
  obtain ⟨path, hpath, h⟩ := Option.bind_eq_some_iff.mp h
  refine ⟨path, hpath, ?_⟩
  split at h
  · next hempty =>
    cases h
    exact .inl ⟨List.isEmpty_iff.mp hempty, rfl⟩
  · obtain ⟨query, hquery, h⟩ := Option.bind_eq_some_iff.mp h
    cases h
    refine .inr ⟨query, if path.contains (cp '?') then cp '&' else cp '?', hquery, ?_, fun hnot => ?_, ?_⟩
    · split
      · exact .inl rfl
      · exact .inr rfl
    · have hpathNot : cp '?' ∉ path := by
        intro hmem
        rcases mem_quote hpath hmem with h | h | ⟨-, h⟩
        · exact absurd h (by decide)
        · exact absurd h (by decide)
        · unfold InterceptedRequest.sentPath at h
          split at h
          · exact absurd (List.mem_singleton.mp h) (by decide)
          · exact hnot h
      rw [if_neg (by simpa using hpathNot)]
    · split <;> simp [str]

/-- **A rebuilt target is read back.** Whatever path and parameters a request has, a target that is rebuilt from them has
    no blank, no control character and nothing beyond ASCII; and unless there was a `%` or a `?` in the path, its path
    and its query are read as the path and the parameters. -/
theorem requestTarget_readBack (hraw : request.rawTarget.getD [] = []) (h : requestTarget request = some target) :
    (∀ c ∈ target, visible c = true) ∧
    (cp '%' ∉ request.path → cp '?' ∉ request.path → request.queryParams.keys.Nodup →
      unquote (target.before (cp '?')) = request.sentPath ∧
        queryDict (Str.after (cp '?') target) = request.queryParams) := by
  obtain ⟨path, hpath, htarget⟩ := requestTarget_cases hraw h
  have hvisible : ∀ c ∈ path, visible c = true := by
    intro c hc
    rcases mem_quote hpath hc with h | rfl | ⟨h, -⟩
    · exact alwaysSafe_visible h
    · decide
    · exact targetSafe_ascii c h
  constructor
  · intro c hc
    rcases htarget with ⟨-, rfl⟩ | ⟨query, sep, hquery, hsep, -, rfl⟩
    · exact hvisible c hc
    · rcases List.mem_append.mp hc with hc | hc
      · exact hvisible c hc
      rcases List.mem_cons.mp hc with rfl | hc
      · rcases hsep with rfl | rfl
        · decide
        · decide
      · exact visible_urlencode hquery hc
  · intro hpercent hquestion hnodup
    have hsent : ∀ d : CodePoint, d ≠ cp '/' → d ∉ request.path → d ∉ request.sentPath := by
      intro d hd hnot
      unfold InterceptedRequest.sentPath
      split
      · exact fun hmem => hd (List.mem_singleton.mp hmem)
      · exact hnot
    have hunquote : unquote path = request.sentPath :=
      unquote_quote hpath (fun c hc => visible_ascii (targetSafe_ascii c hc)) fun _ => hsent _ (by decide) hpercent
    have hne : ∀ c ∈ path, (c != cp '?') = true := by
      intro c hc
      rw [bne_iff_ne]
      rintro rfl
      rcases mem_quote hpath hc with h | h | ⟨-, h⟩
      · exact absurd h (by decide)
      · exact absurd h (by decide)
      · exact hsent _ (by decide) hquestion h
    rcases htarget with ⟨hempty, heq⟩ | ⟨query, sep, hquery, -, hsep, rfl⟩
    · have hbefore : path.before (cp '?') = path := List.takeWhile_eq_self_iff.mpr hne
      have hafter : Str.after (cp '?') path = [] := by
        unfold Str.after
        rw [List.dropWhile_eq_nil_iff.mpr hne]
        rfl
      rw [heq, hbefore, hafter, hempty]
      exact ⟨hunquote, rfl⟩
    · have hbefore : Str.before (cp '?') (path ++ cp '?' :: query) = path := by
        unfold Str.before
        rw [List.takeWhile_append_of_pos hne, List.takeWhile_cons_of_neg (by simp), List.append_nil]
      have hafter : Str.after (cp '?') (path ++ cp '?' :: query) = query := by
        unfold Str.after
        rw [List.dropWhile_append_of_pos hne, List.dropWhile_cons_of_neg (by simp)]
        rfl
      rw [hsep hquestion, hbefore, hafter]
      exact ⟨hunquote, queryDict_urlencode hnodup hquery⟩

/-- A path with a blank, a slash in a value, and a character beyond ASCII. -/
theorem requestTarget_readBack_blank :
    (requestTarget { method := str "GET", path := str "/a b", headers := [], rawTarget := none, body := .null,
                     queryParams := [(str "k", str "1&2"), (str "\u00e9", [])], bodyBytes := none } =
      some (str "/a%20b?k=1%262&%C3%A9=")) ∧
    (∀ c ∈ str "/a%20b?k=1%262&%C3%A9=", visible c = true) ∧
    unquote ((str "/a%20b?k=1%262&%C3%A9=").before (cp '?')) = str "/a b" ∧
    queryDict (Str.after (cp '?') (str "/a%20b?k=1%262&%C3%A9=")) = [(str "k", str "1&2"), (str "\u00e9", [])] := by
  have htarget : requestTarget { method := str "GET", path := str "/a b", headers := [], rawTarget := none, body := .null,
                                 queryParams := [(str "k", str "1&2"), (str "\u00e9", [])], bodyBytes := none } =
      some (str "/a%20b?k=1%262&%C3%A9=") := by decide +kernel
  have hread := requestTarget_readBack rfl htarget
  exact ⟨htarget, hread.1, hread.2 (by decide) (by decide) (by decide)⟩

/-! ## The body -/

theorem detectEncoding_of_pos {bs : Bytes} (h : ∀ b ∈ bs, 0 < b.val) : detectEncoding bs = .utf8 := by
  have hne : ∀ b ∈ bs, b ≠ 0 := by
    rintro b hb rfl
    exact absurd (h 0 hb) (by decide)
  unfold detectEncoding
  split
  · rw [if_neg (hne _ (by simp))]
  · rw [if_neg (hne _ (by simp))]
  · rfl

set_option linter.auxLemma false in
/-- Bytes in ASCII, with no NUL, are read as UTF-8. -/
theorem decodeJson_ascii {bs : Bytes} (h : ∀ b ∈ bs, 0 < b.val ∧ b.val < 0x80) : decodeJson bs = decodeUtf8Pass bs := by
  have hpass : decodePass (detectEncoding bs) bs = decodeUtf8Pass bs := by
    rw [detectEncoding_of_pos fun b hb => (h b hb).1]
    rfl
  rw [← hpass]
  cases bs with
  | nil => rfl
  | cons b rest =>
    have hb := h b List.mem_cons_self
    have hne : ∀ c : Byte, c.val = 0 ∨ 0x80 ≤ c.val → b ≠ c := by
      rintro c hc rfl
      omega
    -- The cases are told apart by the first byte; `split` does not get through the matcher.
    unfold decodeJson decodeJson.match_1
    simp only [dif_neg (hne 0 (by decide)), dif_neg (hne 0xff (by decide)), dif_neg (hne 0xfe (by decide)),
      dif_neg (hne 0xef (by decide))]

/-- **A body that was written is read back from its bytes.** -/
theorem loadsAny_dumps {v : Json} (h : Over Encodable v) :
    ∃ text, dumps I v = .ok text ∧ loadsAny F (text.map fun c => Fin.ofNat 256 c.val) = some v := by
  obtain ⟨text, htext, hloads⟩ := loads_dumpsWith (F := F) h none 0
  have hwritten := dumpsWith_written F 0 v htext
  have hprintable : ∀ c ∈ text, 0x20 ≤ c.val ∧ c.val ≤ 0x7e := by
    intro c hc
    rcases hwritten c hc with h | ⟨hnone, -⟩
    · simpa [printable] using h
    · exact absurd rfl hnone
  have hbytes : ∀ b ∈ text.map fun c => (Fin.ofNat 256 c.val : Byte), 0 < b.val ∧ b.val < 0x80 := by
    intro b hb
    obtain ⟨c, hc, rfl⟩ := List.mem_map.mp hb
    have hrange := hprintable c hc
    rw [val_byte (by omega)]
    omega
  have hencode := encodeUtf8_ascii fun c hc => (hwritten c hc).ascii
  have hdecode := decodeUtf8Pass_of_strict (decodeUtf8_encodeUtf8 hencode)
  refine ⟨text, by rw [← dumpsWith_none I 0 v]; exact htext, ?_⟩
  have hread := hloads [] (by simp)
  rw [List.append_nil] at hread
  rw [loadsAny, decodeJson_ascii hbytes, hdecode, Option.bind_some, hread]

/-- What is sent is the raw body, which reads as the parsed one, or reads as exactly the parsed one. -/
def Means (F : FloatReader I) (request : InterceptedRequest) (sent : Bytes) : Prop :=
  (request.bodyBytes = some sent ∧ rawBodyMatchesParsed F request.body sent = true) ∨
    loadsAny F sent = some request.body

/-- **What is sent means what was parsed.** For every method with a body and every parsed body that can be written, a
    body is found without an exception. One that is sent reads as the parsed body and is as long as the headers say,
    with the other headers as they were, the type apart; none is sent only for a body that is empty. -/
theorem requestBodyBytes_means {method : Str} (headers : Dict Str Str) (hbody : Over Encodable request.body)
    (hmethod : method ∉ [str "GET", str "HEAD", str "DELETE"]) :
    ∃ sent after, requestBodyBytes F request method headers = .ok (sent, after) ∧
      (sent = none → after = headers ∧
        (request.body = .null ∨ request.body = .obj [] ∨ request.bodyBytes = some [])) ∧
      ∀ body, sent = some body → Means F request body ∧
        after.get? (str "content-length") = some (natStr body.length) ∧
        ∀ name, name ≠ str "content-length" →
          after.get? name = headers.get? name ∨ headers.get? name = none ∧ name = str "content-type" := by
  have hcontains : [str "GET", str "HEAD", str "DELETE"].contains method = false := by
    simpa using hmethod
  unfold requestBodyBytes
  rw [hcontains, if_neg Bool.false_ne_true]
  cases hraw : request.bodyBytes.filter (rawBodyMatchesParsed F request.body) with
  | some raw =>
    obtain ⟨hbytes, hmatches⟩ := Option.filter_eq_some_iff.mp hraw
    simp only
    split
    · next hempty =>
      refine ⟨none, headers, rfl, fun _ => ⟨rfl, .inr (.inr ?_)⟩, fun body hsent => by cases hsent⟩
      rw [hbytes, List.isEmpty_iff.mp hempty]
    · refine ⟨some raw, _, rfl, (fun hsent => by cases hsent), fun body hsent => ?_⟩
      cases hsent
      refine ⟨.inl ⟨hbytes, hmatches⟩, by rw [Dict.get?_set, if_pos rfl], fun name hne => .inl ?_⟩
      rw [Dict.get?_set, if_neg (Ne.symm hne)]
  | none =>
    simp only
    split
    · next hempty =>
      exact ⟨none, headers, rfl, fun _ => ⟨rfl, hempty.imp_right .inl⟩, fun body hsent => by cases hsent⟩
    · obtain ⟨text, htext, hread⟩ := loadsAny_dumps (F := F) hbody
      rw [htext, Except.ok_bind]
      refine ⟨_, _, rfl, (fun hsent => by cases hsent), fun body hsent => ?_⟩
      cases hsent
      refine ⟨.inr hread, by rw [Dict.get?_set, if_pos rfl], fun name hne => ?_⟩
      rw [Dict.get?_set, if_neg (Ne.symm hne), Dict.get?_setDefault]
      cases hget : headers.get? name with
      | some value => exact .inl rfl
      | none =>
        by_cases htype : str "content-type" = name
        · exact .inr ⟨rfl, htype.symm⟩
        · rw [if_neg htype]
          exact .inl rfl

/-- A rule has changed the body: the raw bytes are not sent. -/
theorem requestBodyBytes_means_changed :
    let request : InterceptedRequest :=
      { method := str "POST", path := str "/", headers := [], queryParams := [], rawTarget := none
        body := .obj [(str "a", .str (str "b"))], bodyBytes := some [0x7b, 0x7d] }
    ∃ sent after, requestBodyBytes bitsReader request (str "POST") [] = .ok (some sent, after) ∧
      Means bitsReader request sent ∧ after.get? (str "content-length") = some (natStr sent.length) := by
  intro request
  have hbody : Over Encodable request.body := by
    have htext : ∀ s : Str, Unsplit s → Encodable (.str s) := by
      intro s hs
      refine ⟨trivial, fun u hu => ?_⟩
      cases hu
      exact hs
    exact ⟨by decide, htext _ (by decide), htext _ (by decide), trivial⟩
  have hmethod : str "POST" ∉ [str "GET", str "HEAD", str "DELETE"] := by decide
  obtain ⟨sent, after, hrun, -, hsent⟩ := requestBodyBytes_means (F := bitsReader) [] hbody hmethod
  have hsome : (requestBodyBytes bitsReader request (str "POST") []).map (fun p => p.1.isSome) = .ok true := by
    decide +kernel
  cases sent with
  | none =>
    rw [hrun] at hsome
    cases hsome
  | some body =>
    obtain ⟨hmeans, hlength, -⟩ := hsent body rfl
    exact ⟨body, after, hrun, hmeans, hlength⟩

end RideTheApi.Forward
