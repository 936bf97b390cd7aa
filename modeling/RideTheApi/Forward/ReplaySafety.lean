import RideTheApi.Forward.Replay
import RideTheApi.Py.JsonRoundTrip
import RideTheApi.Tls.OutgoingSafety

/-!
# `Forward.ReplaySafety` — when the device gets the answer the upstream gave

Four things stand between an answer and the device. A number of too many digits in a JSON body makes the forward raise;
a length the upstream announced for a body it did not send contradicts the one the listener adds; a header that comes
more than once is kept once; and what one drain does not take is not sent. Where none of these happens the device reads
the same status, body and headers.
-/

namespace RideTheApi.Forward

open Py

variable {I : Interp} {lib : HttpLibrary}

/-! ## Header lines through a dictionary -/

theorem headerBytes_decodeLatin1 (bs : Bytes) : headerBytes (decodeLatin1 bs) = bs :=
  encodeLatin1Replace_decodeLatin1 bs

theorem decodeLatin1_inj {bs bs' : Bytes} (h : decodeLatin1 bs = decodeLatin1 bs') : bs = bs' := by
  rw [← headerBytes_decodeLatin1 bs, h, headerBytes_decodeLatin1]

/-- A header line as text. -/
def decodeLine (h : Bytes × Bytes) : Str × Str := (decodeLatin1 h.1, decodeLatin1 h.2)

/-- The lines a dictionary of headers is sent as. -/
def sentLines (headers : Dict Str Str) : Headers := headers.map fun kv => (headerBytes kv.1, headerBytes kv.2)

theorem lowerStr_of_lower {bs : Bytes} (h : ∀ b ∈ bs, b.val < 0x80 ∧ ¬(0x41 ≤ b.val ∧ b.val ≤ 0x5a)) :
    I.lowerStr (decodeLatin1 bs) = decodeLatin1 bs := by
  induction bs with
  | nil => rfl
  | cons b bs ih =>
    obtain ⟨hascii, hupper⟩ := h b List.mem_cons_self
    have hrest := ih fun b' hb' => h b' (List.mem_cons_of_mem _ hb')
    have hval : (Fin.ofNat 0x110000 b.val : CodePoint).val = b.val := Nat.mod_eq_of_lt (by omega)
    unfold Interp.lowerStr at hrest ⊢
    rw [show decodeLatin1 (b :: bs) = Fin.ofNat 0x110000 b.val :: decodeLatin1 bs from rfl, List.flatMap_cons, hrest,
      hval, if_pos hascii]
    have hnot : Interp.asciiUpper (Fin.ofNat 0x110000 b.val : CodePoint) = false := by
      unfold Interp.asciiUpper
      rw [hval]
      simp only [Bool.and_eq_false_iff, decide_eq_false_iff_not]
      omega
    rw [hnot]
    rfl

namespace Upstream

variable (u : Upstream I lib)

theorem responseHeaders_eq : responseHeaders I u.answer.headers = Dict.ofList (u.answer.headers.map decodeLine) := by
  unfold responseHeaders
  congr 1
  refine List.map_congr_left fun h hmem => ?_
  rw [lowerStr_of_lower (u.names h hmem)]
  rfl

/-- A line that is sent is one the upstream sent. -/
theorem mem_of_mem_sentLines {h : Bytes × Bytes} (hmem : h ∈ sentLines (responseHeaders I u.answer.headers)) :
    h ∈ u.answer.headers := by
  rw [u.responseHeaders_eq] at hmem
  obtain ⟨kv, hkv, rfl⟩ := List.mem_map.mp hmem
  obtain ⟨h, hh, rfl⟩ := List.mem_map.mp (Dict.mem_of_mem_ofList hkv)
  simpa [decodeLine, headerBytes_decodeLatin1] using hh

/-- A line whose name has one value only is sent. -/
theorem mem_sentLines {h : Bytes × Bytes} (hmem : h ∈ u.answer.headers)
    (hunique : ∀ h' ∈ u.answer.headers, h'.1 = h.1 → h'.2 = h.2) :
    h ∈ sentLines (responseHeaders I u.answer.headers) := by
  rw [u.responseHeaders_eq]
  have hline : decodeLine h ∈ Dict.ofList (u.answer.headers.map decodeLine) := by
    refine Dict.mem_ofList (List.mem_map_of_mem hmem) fun v' hv' => ?_
    obtain ⟨h', hh', heq⟩ := List.mem_map.mp hv'
    obtain ⟨hname, rfl⟩ := Prod.mk.inj heq
    rw [hunique h' hh' (decodeLatin1_inj hname)]
  have hbytes : (headerBytes (decodeLine h).1, headerBytes (decodeLine h).2) = h := by
    simp [decodeLine, headerBytes_decodeLatin1]
  rw [← hbytes]
  exact List.mem_map_of_mem hline

/-- No name is sent twice. -/
theorem nodup_sentLines : ((sentLines (responseHeaders I u.answer.headers)).map Prod.fst).Nodup := by
  rw [u.responseHeaders_eq]
  have hkeys := Dict.nodup_keys_ofList (u.answer.headers.map decodeLine)
  unfold sentLines
  rw [List.map_map]
  have hmap : (Dict.ofList (u.answer.headers.map decodeLine)).map
      (Prod.fst ∘ fun kv : Str × Str => (headerBytes kv.1, headerBytes kv.2)) =
        (Dict.ofList (u.answer.headers.map decodeLine)).keys.map headerBytes := by
    rw [Dict.keys, List.map_map]
    rfl
  rw [hmap]
  refine List.Nodup.map_on (fun k hk k' hk' heq => ?_) hkeys
  have hdecode : ∀ k ∈ (Dict.ofList (u.answer.headers.map decodeLine)).keys, ∃ bs, k = decodeLatin1 bs := by
    intro k hk
    obtain ⟨kv, hkv, rfl⟩ := List.mem_map.mp hk
    obtain ⟨h, -, rfl⟩ := List.mem_map.mp (Dict.mem_of_mem_ofList hkv)
    exact ⟨h.1, rfl⟩
  obtain ⟨bs, rfl⟩ := hdecode k hk
  obtain ⟨bs', rfl⟩ := hdecode k' hk'
  rw [headerBytes_decodeLatin1, headerBytes_decodeLatin1] at heq
  rw [heq]

/-! ## What is accepted -/

theorem readResponse_body {events : List Event} {body : Bytes} (h : bodyOf events = some body) {status : Nat}
    {headers : Dict Str Str} {before : Bytes} {response : ForwardedResponse}
    (hread : readResponse I events (some status) headers before = .ok response) :
    response = { statusCode := status, headers, body := before ++ body } := by
  induction events generalizing body before with
  | nil => cases h
  | cons event events ih =>
    cases event with
    | needData fails =>
      cases fails with
      | true => cases h
      | false => exact ih h hread
    | informational => exact ih h hread
    | response _ _ => cases h
    | data chunk =>
      obtain ⟨rest, hrest, rfl⟩ := Option.map_eq_some_iff.mp h
      rw [readResponse] at hread
      split at hread
      · cases hread
      · rw [ih hrest hread, List.append_assoc]
    | endOfMessage =>
      obtain rfl : [] = body := Option.some.inj h
      cases hread
      rw [List.append_nil]
    | connectionClosed =>
      obtain rfl : [] = body := Option.some.inj h
      cases hread
      rw [List.append_nil]
    | malformed => cases h

theorem readResponse_answer {events : List Event} {answer : Message} (h : answerOf events = some answer)
    {headers : Dict Str Str} {response : ForwardedResponse}
    (hread : readResponse I events none headers [] = .ok response) :
    response = { statusCode := answer.status, headers := responseHeaders I answer.headers, body := answer.body } := by
  induction events with
  | nil => cases h
  | cons event events ih =>
    cases event with
    | needData fails =>
      cases fails with
      | true => cases h
      | false => exact ih h hread
    | informational => exact ih h hread
    | response status raw =>
      obtain ⟨body, hbody, rfl⟩ := Option.map_eq_some_iff.mp h
      exact readResponse_body hbody hread
    | data _ => cases h
    | endOfMessage => cases h
    | connectionClosed => cases h
    | malformed => cases h

/-- The attempt at the address ends with the answer, its header lines in a dictionary. -/
theorem forward_result : (forward I u.client u.request u.link).result =
    .ok { statusCode := u.answer.status, headers := responseHeaders I u.answer.headers, body := u.answer.body } := by
  obtain ⟨response, haccepted⟩ := u.accepted
  have hread : readResponse I u.link.events none [] [] = .ok response := by
    unfold forward at haccepted
    cases hconnects : u.link.connects with
    | false =>
      rw [hconnects] at haccepted
      cases haccepted
    | true =>
      cases hbytes : requestBytes I u.client u.request with
      | none =>
        simp only [hconnects, hbytes, Bool.not_true, Bool.false_eq_true, if_false] at haccepted
        cases haccepted
      | some bytes =>
        cases hdrained : u.link.drained with
        | false =>
          simp only [hconnects, hbytes, hdrained, Bool.not_true, Bool.not_false, Bool.false_eq_true, if_false,
            if_true] at haccepted
          cases haccepted
        | true =>
          simpa only [hconnects, hbytes, hdrained, Bool.not_true, Bool.false_eq_true, if_false] using haccepted
  rw [haccepted, readResponse_answer u.carried hread]

/-- The reply that the listener means to write. -/
def reply : Reply where
  statusCode := u.answer.status
  headers := if responseHeaders I u.answer.headers = [] then [("content-type", "application/json")]
    else responseHeaders I u.answer.headers
  body := u.answer.body

/-- There is a reply, and it is this one, just when the body can be decoded. -/
theorem forwardUpstream_eq (F : FloatReader I) (ip : Str) (ips : List Str) (links : List Link) :
    forwardUpstream (I := I) (tryAddresses F u.client u.request (ip :: ips) (u.link :: links)).outcome =
      if decodeBody F u.answer.body = none then none else some u.reply := by
  have hstatus := u.status_ge
  unfold tryAddresses
  simp only [List.headD_cons, u.forward_result]
  cases decodeBody F u.answer.body with
  | none => rfl
  | some decoded =>
    have hpositive : Option.filter (· ≠ 0) (some u.answer.status) = some u.answer.status := by
      simp [Option.filter]
      omega
    simp only [forwardUpstream, CommandResult.ofResponse, hpositive]
    rfl

/-! ## What is written -/

/-- The lines the listener sends. -/
def outLines : Headers :=
  (contentLength, decimal u.answer.body.length) :: (headerBytes "connection", headerBytes "close") ::
    sentLines u.reply.headers

theorem serialize_reply : serializeHttpResponse lib u.reply.statusCode u.reply.headers u.reply.body =
    lib.write u.answer.status ((lib.phrase u.answer.status).getD (headerBytes "OK")) u.outLines u.answer.body := rfl

theorem reply_headers : u.reply.headers = ([("content-type", "application/json")] : Dict Str Str) ∧ u.answer.headers = [] ∨
    u.reply.headers = responseHeaders I u.answer.headers := by
  by_cases hempty : responseHeaders I u.answer.headers = []
  · left
    refine ⟨if_pos hempty, ?_⟩
    rw [u.responseHeaders_eq] at hempty
    cases hheaders : u.answer.headers with
    | nil => rfl
    | cons h headers =>
      have hkey := ((Dict.foldl_set_keys (u.answer.headers.map decodeLine) []).2.1 (decodeLatin1 h.1)).mpr
        (.inr (by rw [hheaders]; exact List.mem_cons_self))
      rw [show (u.answer.headers.map decodeLine).foldl (fun d kv => Dict.set d kv.1 kv.2) [] = [] from hempty] at hkey
      cases hkey
  · exact .inr (if_neg hempty)

/-- A line that is sent is the listener's own, or one the upstream sent. -/
theorem mem_outLines {h : Bytes × Bytes} (hmem : h ∈ u.outLines) :
    h = (contentLength, decimal u.answer.body.length) ∨ h = (headerBytes "connection", headerBytes "close") ∨
      h = (headerBytes "content-type", headerBytes "application/json") ∨ h ∈ u.answer.headers := by
  rcases List.mem_cons.mp hmem with rfl | hmem
  · exact .inl rfl
  · rcases List.mem_cons.mp hmem with rfl | hmem
    · exact .inr (.inl rfl)
    · rcases u.reply_headers with ⟨hjson, -⟩ | hheaders
      · rw [hjson] at hmem
        exact .inr (.inr (.inl (List.mem_singleton.mp hmem)))
      · rw [hheaders] at hmem
        exact .inr (.inr (.inr (u.mem_of_mem_sentLines hmem)))

theorem legal_outLines : ∀ h ∈ u.outLines, lib.legal h := by
  intro h hmem
  rcases u.mem_outLines hmem with rfl | rfl | rfl | hmem
  · exact lib.legal_length _
  · exact lib.legal_close
  · exact lib.legal_json
  · exact u.legal h hmem

/-- Of the lines the listener sends, those for the far end are the ones in the dictionary. -/
theorem endToEnd_outLines : endToEnd u.outLines = endToEnd (sentLines u.reply.headers) := by
  have hlength : isEndToEnd (contentLength, decimal u.answer.body.length) = false := by
    unfold isEndToEnd
    have hname : hopByHopHeaders.contains (decodeLatin1 contentLength) = true := by decide +kernel
    rw [hname]
    rfl
  have hclose : isEndToEnd (headerBytes "connection", headerBytes "close") = false := by decide +kernel
  unfold outLines endToEnd
  rw [List.filter_cons_of_neg (by rw [hlength]; exact Bool.false_ne_true),
    List.filter_cons_of_neg (by rw [hclose]; exact Bool.false_ne_true)]

/-! ## The condition -/

/-- The length the upstream announced, if any, is that of the body it sent, as the listener writes it. -/
def LengthAgrees : Prop := ∀ h ∈ u.answer.headers, h.1 = contentLength → h.2 = decimal u.answer.body.length

/-- No header for the far end comes twice. -/
def Unrepeated : Prop := ((endToEnd u.answer.headers).map Prod.fst).Nodup

/-- One drain takes the whole answer. -/
def FitsDrain (encrypt : Bytes → Bytes) : Prop :=
  ∀ raw, serializeHttpResponse lib u.reply.statusCode u.reply.headers u.reply.body = some raw →
    (encrypt raw).length ≤ Tls.responseDrain

/-- The answer is replayed: there is a reply, it is written, all of it is handed to the transport before the connection
    ends, and the device reads the upstream's status and body and every header for the far end, each as often as it
    came. -/
def Faithful (F : FloatReader I) (encrypt : Bytes → Bytes) (drains : Bool) (ip : Str) (ips : List Str)
    (links : List Link) : Prop :=
  ∃ reply raw message,
    forwardUpstream (I := I) (tryAddresses F u.client u.request (ip :: ips) (u.link :: links)).outcome = some reply ∧
    serializeHttpResponse lib reply.statusCode reply.headers reply.body = some raw ∧
    Tls.HandsOver (writeReply lib encrypt drains reply ++ [.finishes]) ∧
    lib.parse u.request.method raw = some message ∧ message.status = u.answer.status ∧
    message.body = u.answer.body ∧ (endToEnd u.answer.headers).Subperm (endToEnd message.headers)

theorem decimal_digits {n : Nat} : ∀ b ∈ decimal n, 0x30 ≤ b.val ∧ b.val ≤ 0x39 := by
  intro b hb
  obtain ⟨c, hc, rfl⟩ := List.mem_map.mp hb
  have hdigit := natStr_digits hc
  simp only [Interp.asciiDigit, Bool.and_eq_true, decide_eq_true_eq] at hdigit
  rw [if_pos (by omega)]
  show 0x30 ≤ c.val % 256 ∧ c.val % 256 ≤ 0x39
  omega

/-- A length that the listener contradicts is refused. -/
theorem lengthAgrees_of_written {raw : Bytes}
    (h : serializeHttpResponse lib u.reply.statusCode u.reply.headers u.reply.body = some raw) : u.LengthAgrees := by
  intro line hline hname
  by_contra hne
  rw [u.serialize_reply] at h
  have hsent : line ∈ u.outLines := by
    refine List.mem_cons_of_mem _ (List.mem_cons_of_mem _ ?_)
    rcases u.reply_headers with ⟨-, hempty⟩ | hheaders
    · rw [hempty] at hline
      cases hline
    · rw [hheaders]
      refine u.mem_sentLines hline fun h' hh' hname' => ?_
      exact u.length_once h' hh' line hline (hname'.trans hname) hname
  have hrefused := lib.refuses u.answer.status ((lib.phrase u.answer.status).getD (headerBytes "OK")) u.outLines
    u.answer.body (decimal u.answer.body.length) line.2 List.mem_cons_self
    (by rw [← hname]; exact hsent) (Ne.symm hne) decimal_digits (u.lengths line hline hname)
  rw [hrefused] at h
  cases h

theorem isSome_serialize (hlength : u.LengthAgrees) :
    (serializeHttpResponse lib u.reply.statusCode u.reply.headers u.reply.body).isSome = true := by
  rw [u.serialize_reply]
  refine lib.writes _ _ _ u.status_ge u.status_lt u.legal_outLines ⟨_, List.mem_cons_self, rfl⟩ ?_ ?_ ?_ ?_
  · intro h hmem hname
    rcases u.mem_outLines hmem with rfl | rfl | rfl | hmem
    · rfl
    · exact absurd hname (by decide +kernel)
    · exact absurd hname (by decide +kernel)
    · exact hlength h hmem hname
  · have hown : (contentLength == transferEncoding) = false := by decide +kernel
    have hclose : (headerBytes "connection" == transferEncoding) = false := by decide +kernel
    unfold outLines
    rw [List.countP_cons_of_neg (by simp [hown]), List.countP_cons_of_neg (by simp [hclose])]
    rcases u.reply_headers with ⟨hjson, -⟩ | hheaders
    · rw [hjson]
      decide +kernel
    · rw [hheaders]
      have hcount := List.nodup_iff_count_le_one.mp u.nodup_sentLines transferEncoding
      rwa [List.count, List.countP_map] at hcount
  · intro h hmem hname
    have hown : contentLength ≠ transferEncoding := by decide +kernel
    rcases u.mem_outLines hmem with rfl | rfl | rfl | hmem
    · exact absurd hname hown
    · exact absurd hname (by decide +kernel)
    · exact absurd hname (by decide +kernel)
    · exact u.codings h hmem hname
  · intro hstatus
    exact u.bodiless_body (.inr hstatus)

theorem handsOver_writeReply {encrypt : Bytes → Bytes} {drains : Bool} {raw : Bytes}
    (h : serializeHttpResponse lib u.reply.statusCode u.reply.headers u.reply.body = some raw) :
    Tls.HandsOver (writeReply lib encrypt drains u.reply ++ [.finishes]) ↔
      (encrypt raw).length ≤ Tls.responseDrain := by
  rw [Tls.handsOver_iff]
  unfold writeReply
  rw [h, Tls.Connection.deliversFrom_response]
  simp [Tls.Response.room]

/-- Every line for the far end is sent as often as it came just when none of their names comes twice. -/
theorem subperm_iff : (endToEnd u.answer.headers).Subperm (endToEnd u.outLines) ↔ u.Unrepeated := by
  rw [u.endToEnd_outLines]
  rcases u.reply_headers with ⟨-, hempty⟩ | hheaders
  · unfold Unrepeated
    rw [hempty]
    exact ⟨fun _ => List.nodup_nil, fun _ => List.nil_subperm⟩
  · rw [hheaders]
    constructor
    · intro hsub
      obtain ⟨l, hperm, hsublist⟩ := hsub
      have hnodup : ((endToEnd (sentLines (responseHeaders I u.answer.headers))).map Prod.fst).Nodup :=
        u.nodup_sentLines.sublist (List.filter_sublist.map Prod.fst)
      exact ((hperm.map Prod.fst).nodup_iff).mp (hnodup.sublist (hsublist.map Prod.fst))
    · intro hnodup
      refine List.subperm_of_subset hnodup.of_map fun h hmem => ?_
      obtain ⟨hline, hfar⟩ := List.mem_filter.mp hmem
      refine List.mem_filter.mpr ⟨u.mem_sentLines hline fun h' hh' hname => ?_, hfar⟩
      have hfar' : h' ∈ endToEnd u.answer.headers := by
        refine List.mem_filter.mpr ⟨hh', ?_⟩
        unfold isEndToEnd at hfar ⊢
        rwa [hname]
      rw [List.inj_on_of_nodup_map hnodup hfar' hmem hname]

variable {F : FloatReader I} {encrypt : Bytes → Bytes} {drains : Bool} {ip : Str} {ips : List Str} {links : List Link}

theorem conditions_of_faithful (h : u.Faithful F encrypt drains ip ips links) :
    decodeBody F u.answer.body ≠ none ∧ u.LengthAgrees ∧ u.Unrepeated ∧ u.FitsDrain encrypt := by
  obtain ⟨reply, raw, message, hreply, hraw, hhands, hparse, hstatus, hbody, hheaders⟩ := h
  rw [u.forwardUpstream_eq] at hreply
  by_cases hdecode : decodeBody F u.answer.body = none
  · rw [if_pos hdecode] at hreply
    cases hreply
  · rw [if_neg hdecode] at hreply
    obtain rfl := Option.some.inj hreply
    obtain ⟨message', hparse', -, -, hsame⟩ := lib.parse_write u.request.method _ _ u.outLines _ raw
      u.legal_outLines u.bodiless_body (u.serialize_reply ▸ hraw)
    obtain rfl : message = message' := Option.some.inj (hparse.symm.trans hparse')
    rw [hsame] at hheaders
    refine ⟨hdecode, u.lengthAgrees_of_written hraw, u.subperm_iff.mp hheaders, fun raw' hraw' => ?_⟩
    obtain rfl : raw = raw' := Option.some.inj (hraw.symm.trans hraw')
    exact (u.handsOver_writeReply hraw).mp hhands

theorem faithful_of_conditions (hdecode : decodeBody F u.answer.body ≠ none) (hlength : u.LengthAgrees)
    (hunrepeated : u.Unrepeated) (hfits : u.FitsDrain encrypt) : u.Faithful F encrypt drains ip ips links := by
  obtain ⟨raw, hraw⟩ := Option.isSome_iff_exists.mp (u.isSome_serialize hlength)
  obtain ⟨message, hparse, hstatus, hbody, hsame⟩ := lib.parse_write u.request.method _ _ u.outLines _ raw
    u.legal_outLines u.bodiless_body (u.serialize_reply ▸ hraw)
  refine ⟨u.reply, raw, message, ?_, hraw, (u.handsOver_writeReply hraw).mpr (hfits raw hraw), hparse, hstatus, hbody,
    ?_⟩
  · rw [u.forwardUpstream_eq]
    exact if_neg hdecode
  · rw [hsame]
    exact u.subperm_iff.mpr hunrepeated

/-- The answer is replayed faithfully just when its body can be decoded, its length is not contradicted, no header for
    the far end is repeated and one drain takes it. -/
theorem faithful_iff (u : Upstream I lib) (F : FloatReader I) (encrypt : Bytes → Bytes) (drains : Bool) (ip : Str)
    (ips : List Str) (links : List Link) : u.Faithful F encrypt drains ip ips links ↔
      decodeBody F u.answer.body ≠ none ∧ u.LengthAgrees ∧ u.Unrepeated ∧ u.FitsDrain encrypt :=
  ⟨u.conditions_of_faithful, fun ⟨hdecode, hlength, hunrepeated, hfits⟩ =>
    u.faithful_of_conditions hdecode hlength hunrepeated hfits⟩

end Upstream

end RideTheApi.Forward
