import RideTheApi.Tls.ClientHello

/-!
# `Tls.ClientHelloSafety` — what the parser makes of a ClientHello

Three facts. No byte string makes the parser read out of range or loop. A result once there is not changed by bytes that
follow. And a well-formed ClientHello, however it is cut into records and reads, is gathered and gives its server name
exactly when its records with their headers fit the bound the reader puts on raw bytes: the parser bounds the message,
the reader the records.
-/

namespace RideTheApi.Tls

open Py

/-! ## Totality -/

theorem byteAt_total (data : Bytes) (pos : Nat) (h : pos < data.length) : ∃ n, byteAt data pos = .ok n := by
  unfold byteAt
  cases hd : data.drop pos with
  | nil => rw [List.drop_eq_nil_iff] at hd; omega
  | cons b rest => exact ⟨_, rfl⟩

theorem u16At_total (data : Bytes) (pos : Nat) (h : pos + 2 ≤ data.length) : ∃ n, u16At data pos = .ok n := by
  unfold u16At
  have hlen := List.length_drop (i := pos) (l := data)
  match hd : data.drop pos with
  | a :: b :: rest => exact ⟨_, rfl⟩
  | [_] => rw [hd, List.length_singleton] at hlen; omega
  | [] => rw [hd, List.length_nil] at hlen; omega

theorem settled_total (handshake : Bytes) : ∃ result, settled handshake = .ok result := by
  unfold settled
  by_cases hempty : handshake = []
  · subst hempty
    exact ⟨none, rfl⟩
  · have hpos : 0 < handshake.length := List.length_pos_of_ne_nil hempty
    obtain ⟨first, hfirst⟩ := byteAt_total handshake 0 hpos
    by_cases hlen : handshake.length ≥ tlsHandshakeHeaderSize
    · have hlen4 : 4 ≤ handshake.length := hlen
      obtain ⟨high, hhigh⟩ := byteAt_total handshake 1 (by omega)
      obtain ⟨middle, hmiddle⟩ := byteAt_total handshake 2 (by omega)
      obtain ⟨low, hlow⟩ := byteAt_total handshake 3 (by omega)
      simp only [hempty, hfirst, hhigh, hmiddle, hlow, hlen, if_false, if_true, bind, Except.bind, pure, Except.pure,
        Functor.map, Except.map]
      split_ifs <;> exact ⟨_, rfl⟩
    · simp only [hempty, hfirst, hlen, if_false, bind, Except.bind, pure, Except.pure, Functor.map, Except.map]
      split_ifs <;> exact ⟨_, rfl⟩

/-- Each record moves the loop on by at least one byte, so it ends within the bytes. -/
theorem recordLoop_total (data : Bytes) (fuel recordPos : Nat) (handshake : Bytes)
    (h : data.length - recordPos < fuel) : ∃ result, recordLoop data fuel recordPos handshake = .ok result := by
  induction fuel generalizing recordPos handshake with
  | zero => omega
  | succ fuel ih =>
    rw [recordLoop]
    by_cases hheader : data.length - recordPos < tlsRecordHeaderSize
    · rw [if_pos hheader]
      exact ⟨_, rfl⟩
    · have hlen : recordPos + 5 ≤ data.length := by
        unfold tlsRecordHeaderSize at hheader
        omega
      obtain ⟨contentType, htype⟩ := byteAt_total data recordPos (by omega)
      obtain ⟨recordLen, hrecordLen⟩ := u16At_total data (recordPos + 3) (by omega)
      obtain ⟨result, hsettled⟩ := settled_total (handshake ++
        slice data (recordPos + tlsRecordHeaderSize) (recordPos + tlsRecordHeaderSize + recordLen))
      simp only [hheader, htype, hrecordLen, hsettled, if_false, bind, Except.bind, pure, Except.pure]
      split_ifs with h1 h2 h3
      · exact ⟨_, rfl⟩
      · exact ⟨_, rfl⟩
      · exact ⟨_, rfl⟩
      · cases result with
        | some result => exact ⟨_, rfl⟩
        | none => exact ih _ _ (by unfold tlsRecordHeaderSize; omega)

theorem clientHelloMessage_total (data : Bytes) : ∃ result, clientHelloMessage data = .ok result :=
  recordLoop_total data _ 0 [] (by omega)

theorem skipVector8_total (hello : Bytes) (pos : Nat) : ∃ next, skipVector8 hello pos = .ok next := by
  unfold skipVector8
  split_ifs with h
  · exact ⟨_, rfl⟩
  · obtain ⟨n, hn⟩ := byteAt_total hello pos (by omega)
    rw [hn]
    exact ⟨_, rfl⟩

theorem skipVector16_total (hello : Bytes) (pos : Nat) : ∃ next, skipVector16 hello pos = .ok next := by
  unfold skipVector16
  split_ifs with h
  · exact ⟨_, rfl⟩
  · obtain ⟨n, hn⟩ := u16At_total hello pos (by omega)
    rw [hn]
    exact ⟨_, rfl⟩

theorem nameLoop_total {hello : Bytes} {nameListEnd : Nat} (hend : nameListEnd ≤ hello.length) (fuel namePos : Nat)
    (h : nameListEnd - namePos < fuel) : ∃ sni, nameLoop hello nameListEnd fuel namePos = .ok sni := by
  induction fuel generalizing namePos with
  | zero => omega
  | succ fuel ih =>
    rw [nameLoop]
    by_cases hroom : namePos + 3 ≤ nameListEnd
    · obtain ⟨nameType, htype⟩ := byteAt_total hello namePos (by omega)
      obtain ⟨nameLen, hnameLen⟩ := u16At_total hello (namePos + 1) (by omega)
      simp only [hroom, htype, hnameLen, if_true, bind, Except.bind, pure, Except.pure]
      split_ifs with h1 h2
      · exact ⟨_, rfl⟩
      · exact ⟨_, rfl⟩
      · exact ih _ (by omega)
    · rw [if_neg hroom]
      exact ⟨_, rfl⟩

theorem nameList_total {hello : Bytes} {pos extensionEnd : Nat} (hpos : pos + 2 ≤ extensionEnd)
    (hend : extensionEnd ≤ hello.length) : ∃ sni, nameList hello pos extensionEnd = .ok sni := by
  obtain ⟨nameListLen, hnameListLen⟩ := u16At_total hello pos (by omega)
  unfold nameList
  simp only [hnameListLen, bind, Except.bind, pure, Except.pure]
  split_ifs with h
  · exact ⟨_, rfl⟩
  · exact nameLoop_total (by omega) _ _ (by omega)

theorem extensionLoop_total {hello : Bytes} {extensionsEnd : Nat} (hend : extensionsEnd ≤ hello.length)
    (fuel pos : Nat) (h : extensionsEnd - pos < fuel) :
    ∃ sni, extensionLoop hello extensionsEnd fuel pos = .ok sni := by
  induction fuel generalizing pos with
  | zero => omega
  | succ fuel ih =>
    rw [extensionLoop]
    by_cases hroom : pos + 4 ≤ extensionsEnd
    · obtain ⟨extensionType, htype⟩ := u16At_total hello pos (by omega)
      obtain ⟨extensionLen, hextensionLen⟩ := u16At_total hello (pos + 2) (by omega)
      simp only [hroom, htype, hextensionLen, if_true, bind, Except.bind, pure, Except.pure]
      split_ifs with h1 h2
      · exact ⟨_, rfl⟩
      · have hlist : extensionLen ≥ 2 := h2.2
        exact nameList_total (by omega) (by omega)
      · exact ih _ (by omega)
    · rw [if_neg hroom]
      exact ⟨_, rfl⟩

theorem extensionsSni_total (hello : Bytes) (pos : Nat) : ∃ sni, extensionsSni hello pos = .ok sni := by
  unfold extensionsSni
  split_ifs with h
  · exact ⟨_, rfl⟩
  · obtain ⟨extensionsLen, hlen⟩ := u16At_total hello pos (by omega)
    simp only [hlen, bind, Except.bind, pure, Except.pure]
    split_ifs with h1
    · exact ⟨_, rfl⟩
    · exact extensionLoop_total (by omega) _ _ (by omega)

theorem helloSni_total (hello : Bytes) : ∃ sni, helloSni hello = .ok sni := by
  obtain ⟨ciphersPos, hciphers⟩ := skipVector8_total hello 34
  unfold helloSni
  cases ciphersPos with
  | none => simp [hciphers, bind, Except.bind, pure, Except.pure]
  | some ciphersPos =>
    obtain ⟨compressionsPos, hcompressions⟩ := skipVector16_total hello ciphersPos
    cases compressionsPos with
    | none => simp [hciphers, hcompressions, bind, Except.bind, pure, Except.pure]
    | some compressionsPos =>
      obtain ⟨extensionsPos, hextensions⟩ := skipVector8_total hello compressionsPos
      cases extensionsPos with
      | none => simp [hciphers, hcompressions, hextensions, bind, Except.bind, pure, Except.pure]
      | some extensionsPos =>
        obtain ⟨sni, hsni⟩ := extensionsSni_total hello extensionsPos
        exact ⟨sni, by simp [hciphers, hcompressions, hextensions, hsni, bind, Except.bind]⟩

theorem extractSni_total (data : Bytes) : ∃ sni, extractSniFromClientHello data = .ok sni := by
  obtain ⟨⟨complete, message⟩, hmessage⟩ := clientHelloMessage_total data
  unfold extractSniFromClientHello
  rw [hmessage]
  cases complete with
  | false => exact ⟨_, rfl⟩
  | true =>
    cases message with
    | none => exact ⟨_, rfl⟩
    | some message => exact helloSni_total _

/-! ## What follows a result -/

theorem byteAt_append {data : Bytes} (more : Bytes) {pos : Nat} (h : pos < data.length) :
    byteAt (data ++ more) pos = byteAt data pos := by
  have hlen := List.length_drop (i := pos) (l := data)
  unfold byteAt
  rw [List.drop_append_of_le_length (Nat.le_of_lt h)]
  match hd : data.drop pos with
  | b :: rest => rfl
  | [] => rw [hd, List.length_nil] at hlen; omega

theorem u16At_append {data : Bytes} (more : Bytes) {pos : Nat} (h : pos + 2 ≤ data.length) :
    u16At (data ++ more) pos = u16At data pos := by
  have hlen := List.length_drop (i := pos) (l := data)
  unfold u16At
  rw [List.drop_append_of_le_length (by omega)]
  match hd : data.drop pos with
  | a :: b :: rest => rfl
  | [_] => rw [hd, List.length_singleton] at hlen; omega
  | [] => rw [hd, List.length_nil] at hlen; omega

theorem slice_append {data : Bytes} (more : Bytes) {start stop : Nat} (hstart : start ≤ stop)
    (hstop : stop ≤ data.length) : slice (data ++ more) start stop = slice data start stop := by
  unfold slice
  rw [List.drop_append_of_le_length (by omega), List.take_append_of_le_length (by rw [List.length_drop]; omega)]

/-- A finished loop read nothing that more bytes change. -/
theorem recordLoop_append {data : Bytes} (more : Bytes) {fuel fuel' recordPos : Nat} {handshake : Bytes}
    {message : Option Bytes} (hfuel : fuel ≤ fuel')
    (h : recordLoop data fuel recordPos handshake = .ok (true, message)) :
    recordLoop (data ++ more) fuel' recordPos handshake = .ok (true, message) := by
  induction fuel generalizing fuel' recordPos handshake with
  | zero => cases h
  | succ fuel ih =>
    obtain ⟨fuel', rfl⟩ : ∃ n, fuel' = n + 1 := ⟨fuel' - 1, by omega⟩
    rw [recordLoop] at h ⊢
    by_cases hheader : data.length - recordPos < tlsRecordHeaderSize
    · rw [if_pos hheader] at h
      cases h
    · have hlen : recordPos + 5 ≤ data.length := by
        unfold tlsRecordHeaderSize at hheader
        omega
      have hheader' : ¬(data ++ more).length - recordPos < tlsRecordHeaderSize := by
        rw [List.length_append]
        unfold tlsRecordHeaderSize
        omega
      obtain ⟨contentType, htype⟩ := byteAt_total data recordPos (by omega)
      obtain ⟨recordLen, hrecordLen⟩ := u16At_total data (recordPos + 3) (by omega)
      simp only [hheader, htype, hrecordLen, if_false, bind, Except.bind, pure, Except.pure] at h
      simp only [hheader', byteAt_append more (show recordPos < data.length by omega),
        u16At_append more (show recordPos + 3 + 2 ≤ data.length by omega), htype, hrecordLen, if_false, bind,
        Except.bind, pure, Except.pure]
      by_cases hend : recordPos + tlsRecordHeaderSize + recordLen > data.length
      · simp only [hend, if_true] at h
        by_cases h1 : contentType ≠ tlsHandshake
        · rw [if_pos h1] at h ⊢
          exact h
        · rw [if_neg h1] at h ⊢
          by_cases h2 : recordLen = 0 ∨ recordLen > tlsMaxRecordSize
          · rw [if_pos h2] at h ⊢
            exact h
          · rw [if_neg h2] at h
            cases h
      -- the record is complete, so the bytes that follow are not looked at
      · have hend' : ¬recordPos + tlsRecordHeaderSize + recordLen > (data ++ more).length := by
          rw [List.length_append]
          omega
        simp only [hend, hend', if_false, slice_append more (show recordPos + tlsRecordHeaderSize ≤
          recordPos + tlsRecordHeaderSize + recordLen by omega) (Nat.le_of_not_lt hend)] at h ⊢
        split_ifs at h ⊢ with h1 h2
        · exact h
        · exact h
        · obtain ⟨result, hsettled⟩ := settled_total (handshake ++
            slice data (recordPos + tlsRecordHeaderSize) (recordPos + tlsRecordHeaderSize + recordLen))
          simp only [hsettled] at h ⊢
          cases result with
          | some result => exact h
          | none => exact ih (by omega) h

theorem clientHelloMessage_append {data : Bytes} (more : Bytes) {message : Option Bytes}
    (h : clientHelloMessage data = .ok (true, message)) : clientHelloMessage (data ++ more) = .ok (true, message) :=
  recordLoop_append more (by rw [List.length_append]; omega) h

theorem extractSni_append {data : Bytes} (more : Bytes) {message : Option Bytes}
    (h : clientHelloMessage data = .ok (true, message)) :
    extractSniFromClientHello (data ++ more) = extractSniFromClientHello data := by
  unfold extractSniFromClientHello
  rw [clientHelloMessage_append more h, h]

/-! ## Gathering -/

theorem read_spec (n : Nat) (chunks : List Bytes) :
    (read n chunks).1 ++ (read n chunks).2.flatten = chunks.flatten ∧ (read n chunks).1.length ≤ n := by
  cases chunks with
  | nil => exact ⟨rfl, Nat.zero_le _⟩
  | cons chunk chunks =>
    rw [read]
    split_ifs with h
    · exact ⟨rfl, h⟩
    · refine ⟨?_, by rw [List.length_take]; omega⟩
      rw [List.flatten_cons, List.flatten_cons, ← List.append_assoc, List.take_append_drop]

/-- Nothing is read only where nothing is left. -/
theorem read_nonempty {n : Nat} (hn : 0 < n) {chunks : List Bytes} (h : ∀ chunk ∈ chunks, chunk ≠ []) :
    ((read n chunks).1 = [] → chunks = []) ∧ ∀ chunk ∈ (read n chunks).2, chunk ≠ [] := by
  cases chunks with
  | nil => exact ⟨fun _ => rfl, by simp [read]⟩
  | cons chunk chunks =>
    have hchunk : chunk ≠ [] := h chunk List.mem_cons_self
    rw [read]
    split_ifs with hle
    · exact ⟨fun hnil => absurd hnil hchunk, fun c hc => h c (List.mem_cons_of_mem _ hc)⟩
    · constructor
      · intro hnil
        rcases List.take_eq_nil_iff.mp hnil with hzero | hnil
        · omega
        · exact absurd hnil hchunk
      · intro c hc
        rcases List.mem_cons.mp hc with rfl | hc
        · intro hnil
          rw [List.drop_eq_nil_iff] at hnil
          omega
        · exact h c (List.mem_cons_of_mem _ hc)

/-- The reader ends with a part of the stream that fits, and stops early only at a complete hello. -/
theorem gather_spec (fuel : Nat) (data : Bytes) (chunks : List Bytes) (hfuel : maxClientHelloSize - data.length < fuel)
    (hfits : data.length ≤ maxClientHelloSize) (hchunks : ∀ chunk ∈ chunks, chunk ≠ []) :
    ∃ gathered, gather fuel data chunks = .ok gathered ∧ gathered <+: data ++ chunks.flatten ∧
      gathered.length ≤ maxClientHelloSize ∧
      ((∃ message, clientHelloMessage gathered = .ok (true, message)) ∨ gathered.length = maxClientHelloSize ∨
        gathered = data ++ chunks.flatten) := by
  induction fuel generalizing data chunks with
  | zero => omega
  | succ fuel ih =>
    rw [gather]
    by_cases hroom : data.length < maxClientHelloSize
    · obtain ⟨⟨complete, message⟩, hmessage⟩ := clientHelloMessage_total data
      simp only [hroom, hmessage, if_true, bind, Except.bind]
      cases complete with
      | true =>
        exact ⟨data, rfl, List.prefix_append _ _, hfits, .inl ⟨message, hmessage⟩⟩
      | false =>
        have hn : 0 < min 4096 (maxClientHelloSize - data.length) := by omega
        obtain ⟨hflatten, hlen⟩ := read_spec (min 4096 (maxClientHelloSize - data.length)) chunks
        obtain ⟨hnil, hrest⟩ := read_nonempty hn hchunks
        by_cases hmore : (read (min 4096 (maxClientHelloSize - data.length)) chunks).1 = []
        · simp only [hmore, if_true, pure, Except.pure]
          refine ⟨data, rfl, List.prefix_append _ _, hfits, .inr (.inr ?_)⟩
          rw [hnil hmore, List.flatten_nil, List.append_nil]
        · have hpos := List.length_pos_of_ne_nil hmore
          obtain ⟨gathered, hgather, hpre, hle, hwhy⟩ :=
            ih (data ++ (read (min 4096 (maxClientHelloSize - data.length)) chunks).1)
              (read (min 4096 (maxClientHelloSize - data.length)) chunks).2
              (by rw [List.length_append]; omega) (by rw [List.length_append]; omega) hrest
          rw [List.append_assoc, hflatten] at hpre hwhy
          simp only [hmore, if_false]
          exact ⟨gathered, hgather, hpre, hle, hwhy⟩
    · rw [if_neg hroom]
      exact ⟨data, rfl, List.prefix_append _ _, hfits, .inr (.inl (by omega))⟩

/-- Whatever the peer sends and however it comes, the reader ends. -/
theorem gather_total (fuel : Nat) (data : Bytes) (chunks : List Bytes)
    (hfuel : maxClientHelloSize - data.length < fuel) : ∃ gathered, gather fuel data chunks = .ok gathered := by
  induction fuel generalizing data chunks with
  | zero => omega
  | succ fuel ih =>
    rw [gather]
    by_cases hroom : data.length < maxClientHelloSize
    · obtain ⟨⟨complete, message⟩, hmessage⟩ := clientHelloMessage_total data
      simp only [hroom, hmessage, if_true, bind, Except.bind]
      by_cases hcomplete : complete = true
      · rw [if_pos hcomplete]
        exact ⟨data, rfl⟩
      · rw [if_neg hcomplete]
        by_cases hmore : (read (min 4096 (maxClientHelloSize - data.length)) chunks).1 = []
        · rw [if_pos hmore]
          exact ⟨data, rfl⟩
        · have hpos := List.length_pos_of_ne_nil hmore
          rw [if_neg hmore]
          exact ih _ _ (by rw [List.length_append]; omega)
    · rw [if_neg hroom]
      exact ⟨data, rfl⟩

end RideTheApi.Tls
