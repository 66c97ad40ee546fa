import ChatLink.Text.Utf8

/-!
# Reading what is well-formed UTF-8

The bytes of characters are read as these characters (`Utf8.lossy_encode`). A character takes one to
four bytes; `Utf8.next_encodeChar` follows the reader through each of the four forms, in numbers :
the bits that the first byte carries and the six of each further byte add up to the character.

Damage does not spread over characters. What stands behind them is read by itself
(`Utf8.lossy_encode_append`), and so is what stands before them, since no character begins with a
byte that could go on with a sequence (`Utf8.lossy_append`).
-/

namespace ChatLink.Text.Utf8

theorem Lead.of?_ofNat : ∀ n < 256, Lead.of? (UInt8.ofNat n) =
    if n < 0x80 then some ⟨n, 0, 0x80, 0xbf⟩
    else if n < 0xc2 then none
    else if n < 0xe0 then some ⟨n - 0xc0, 1, 0x80, 0xbf⟩
    else if n < 0xf0 then
      some ⟨n - 0xe0, 2, if n = 0xe0 then 0xa0 else 0x80, if n = 0xed then 0x9f else 0xbf⟩
    else if n < 0xf5 then
      some ⟨n - 0xf0, 3, if n = 0xf0 then 0x90 else 0x80, if n = 0xf4 then 0x8f else 0xbf⟩
    else none := by
  decide +kernel

theorem continuation_ofNat {low high : UInt8} {n : Nat} (hl : low.toNat ≤ n) (hh : n ≤ high.toNat)
    (more value : Nat) (rest : List UInt8) :
    continuation (more + 1) low high value (UInt8.ofNat n :: rest) =
      continuation more 0x80 0xbf (value * 64 + (n - 0x80)) rest := by
  have hn : (UInt8.ofNat n).toNat = n := by
    have := high.toNat_lt
    rw [UInt8.toNat_ofNat', Nat.mod_eq_of_lt (by omega)]
  have hb : low ≤ UInt8.ofNat n ∧ UInt8.ofNat n ≤ high := by
    rw [UInt8.le_iff_toNat_le, UInt8.le_iff_toNat_le, hn]
    exact ⟨hl, hh⟩
  rw [continuation, if_pos hb, hn]

/-- The bytes of a character are read as that character. -/
theorem next_encodeChar (c : Char) (rest : List UInt8) :
    ∃ b bs, String.utf8EncodeChar c = b :: bs ∧ next b (bs ++ rest) = (some c, rest) := by
  have hc : c.val.toNat < 0xd800 ∨ 0xdfff < c.val.toNat ∧ c.val.toNat < 0x110000 := c.valid
  have hof : Char.ofNat c.val.toNat = c := Char.ofNat_toNat c
  fun_cases String.utf8EncodeChar c with
  | case1 v h =>
    refine ⟨_, _, rfl, ?_⟩
    rw [next, Lead.of?_ofNat _ (by omega), if_pos (by omega)]
    simp only [List.nil_append, continuation, Option.map_some, v, hof]
  | case2 v h₁ h₂ =>
    refine ⟨_, _, rfl, ?_⟩
    have hv : (v / 64 % 32 + 0xc0 - 0xc0) * 64 + (v % 64 + 0x80 - 0x80) = v := by omega
    rw [next, Lead.of?_ofNat _ (by omega), if_neg (by omega), if_neg (by omega), if_pos (by omega)]
    simp only [List.cons_append, List.nil_append]
    rw [continuation_ofNat (by simp) (by simp; omega), hv, continuation, Option.map_some, hof]
  | case3 v h₁ h₂ h₃ =>
    refine ⟨_, _, rfl, ?_⟩
    have hv : ((v / 4096 % 16 + 0xe0 - 0xe0) * 64 + (v / 64 % 64 + 0x80 - 0x80)) * 64 +
        (v % 64 + 0x80 - 0x80) = v := by omega
    rw [next, Lead.of?_ofNat _ (by omega), if_neg (by omega), if_neg (by omega), if_neg (by omega),
      if_pos (by omega)]
    simp only [List.cons_append, List.nil_append]
    -- the bounds of the second byte leave out longer forms and the surrogates
    rw [continuation_ofNat (by split <;> simp; omega) (by split <;> simp <;> omega),
      continuation_ofNat (by simp) (by simp; omega), hv, continuation, Option.map_some, hof]
  | case4 v h₁ h₂ h₃ =>
    refine ⟨_, _, rfl, ?_⟩
    have hv : (((v / 262144 % 8 + 0xf0 - 0xf0) * 64 + (v / 4096 % 64 + 0x80 - 0x80)) * 64 +
        (v / 64 % 64 + 0x80 - 0x80)) * 64 + (v % 64 + 0x80 - 0x80) = v := by omega
    rw [next, Lead.of?_ofNat _ (by omega), if_neg (by omega), if_neg (by omega), if_neg (by omega),
      if_neg (by omega), if_pos (by omega)]
    simp only [List.cons_append, List.nil_append]
    -- and here they leave out longer forms and what is above U+10FFFF
    rw [continuation_ofNat (by split <;> simp; omega) (by split <;> simp <;> omega),
      continuation_ofNat (by simp) (by simp; omega), continuation_ofNat (by simp) (by simp; omega),
      hv, continuation, Option.map_some, hof]

theorem le_toNat_ofNat {n : Nat} (hl : 0x80 ≤ n) (hn : n < 256) :
    0x80 ≤ (UInt8.ofNat n).toNat := by
  rw [UInt8.toNat_ofNat', Nat.mod_eq_of_lt hn]
  exact hl

/-- The bytes of a character beyond ASCII are all 0x80 or more. -/
theorem le_or_eq_of_mem_encodeChar {c : Char} {b : UInt8} (h : b ∈ String.utf8EncodeChar c) :
    0x80 ≤ b.toNat ∨ b.toNat = c.toNat := by
  have hc : c.toNat = c.val.toNat := rfl
  revert h
  fun_cases String.utf8EncodeChar c with
  | case1 v hv =>
    rw [List.mem_singleton]
    rintro rfl
    right
    rw [UInt8.toNat_ofNat', hc, Nat.mod_eq_of_lt (by omega)]
  | case2 v =>
    simp only [List.mem_cons, List.not_mem_nil, or_false]
    rintro (rfl | rfl) <;> exact .inl (le_toNat_ofNat (by omega) (by omega))
  | case3 v =>
    simp only [List.mem_cons, List.not_mem_nil, or_false]
    rintro (rfl | rfl | rfl) <;> exact .inl (le_toNat_ofNat (by omega) (by omega))
  | case4 v =>
    simp only [List.mem_cons, List.not_mem_nil, or_false]
    rintro (rfl | rfl | rfl | rfl) <;> exact .inl (le_toNat_ofNat (by omega) (by omega))

/-! ## Pieces one after another -/

theorem scanFrom_eq (done : Array (Option Char)) : ∀ bytes : List UInt8,
    scanFrom done bytes = done ++ scan bytes
  | [] => by simp [scan, scanFrom]
  | b :: rest => by
    have hl : (next b rest).2.length < (b :: rest).length :=
      Nat.lt_succ_of_le (length_next b rest)
    rw [scan, scanFrom, scanFrom.eq_2 #[], scanFrom_eq _ (next b rest).2,
      scanFrom_eq (Array.push #[] _) (next b rest).2]
    apply Array.ext'
    simp
termination_by bytes => bytes.length
decreasing_by all_goals exact hl

theorem scan_cons (b : UInt8) (rest : List UInt8) :
    scan (b :: rest) = #[(next b rest).1] ++ scan (next b rest).2 := by
  rw [scan, scanFrom, scanFrom_eq]
  simp

theorem foldl_push (text : String) (cs : List Char) :
    cs.foldl String.push text = text ++ String.ofList cs := by
  induction cs generalizing text with
  | nil => simp
  | cons c cs ih =>
    rw [List.foldl_cons, ih, ← String.toList_inj]
    simp

theorem lossy_eq (bytes : List UInt8) :
    lossy bytes = String.ofList ((scan bytes).toList.map (·.getD replacement)) := by
  have hpush := foldl_push "" ((scan bytes).toList.map (·.getD replacement))
  rw [List.foldl_map, Array.foldl_toList, String.empty_append] at hpush
  exact hpush

/-- What stands behind a character does not change how it is read. -/
theorem lossy_encode_append (cs : List Char) (rest : List UInt8) :
    lossy (encode cs ++ rest) = String.ofList cs ++ lossy rest := by
  induction cs with
  | nil => simp [encode]
  | cons c cs ih =>
    obtain ⟨b, bs, hb, hn⟩ := next_encodeChar c (encode cs ++ rest)
    have he : encode (c :: cs) ++ rest = b :: (bs ++ (encode cs ++ rest)) := by
      rw [encode, List.flatMap_cons, hb, List.append_assoc, List.cons_append, encode]
    rw [lossy_eq] at ih
    rw [he, lossy_eq, scan_cons, hn, ← String.toList_inj]
    rw [← String.toList_inj] at ih
    simpa using ih

/-- Well-formed text is read without loss. -/
theorem lossy_encode (cs : List Char) : lossy (encode cs) = String.ofList cs := by
  have hnil : lossy [] = "" := by simp [lossy, scan, scanFrom]
  have h := lossy_encode_append cs []
  rwa [List.append_nil, hnil, String.append_empty] at h

/-! ## What stands before a character -/

/-- Bytes that do not go on with a sequence that has begun before them. -/
def Breaks (rest : List UInt8) : Prop := ∀ b ∈ rest.head?, ¬ (0x80 ≤ b ∧ b ≤ 0xbf)

theorem Lead.of?_eq_none {b : UInt8} (h : 0x80 ≤ b ∧ b ≤ 0xbf) : Lead.of? b = none := by
  obtain ⟨hl, hh⟩ : 0x80 ≤ b.toNat ∧ b.toNat ≤ 0xbf := h
  rw [← UInt8.ofNat_toNat (x := b), Lead.of?_ofNat _ b.toNat_lt, if_neg (by omega),
    if_pos (by omega)]

theorem Lead.bounds {b : UInt8} {lead : Lead} (h : Lead.of? b = some lead) :
    0x80 ≤ lead.low ∧ lead.high ≤ 0xbf := by
  have hall : ∀ n < 256, ∀ lead ∈ Lead.of? (UInt8.ofNat n), 0x80 ≤ lead.low ∧ lead.high ≤ 0xbf := by
    decide +kernel
  exact hall b.toNat b.toNat_lt lead (by rwa [UInt8.ofNat_toNat])

/-- The bytes of a character do not go on with what is before them. -/
theorem breaks_encode (c : Char) (cs : List Char) (rest : List UInt8) :
    Breaks (encode (c :: cs) ++ rest) := by
  obtain ⟨b, bs, hb, hn⟩ := next_encodeChar c rest
  intro b' hb' hcontinuation
  rw [encode, List.flatMap_cons, hb] at hb'
  obtain rfl : b = b' := Option.some.inj hb'
  rw [next, Lead.of?_eq_none hcontinuation] at hn
  cases hn

theorem continuation_append {rest : List UInt8} (h : Breaks rest) (more : Nat) (low high : UInt8)
    (value : Nat) (bytes : List UInt8) (hl : 0x80 ≤ low) (hh : high ≤ 0xbf) :
    continuation more low high value (bytes ++ rest) =
      ((continuation more low high value bytes).1,
        (continuation more low high value bytes).2 ++ rest) := by
  fun_induction continuation more low high value bytes with
  | case1 => rw [continuation]
  | case2 more low high value =>
    cases rest with
    | nil => rfl
    | cons b rest =>
      have hb : ¬ (low ≤ b ∧ b ≤ high) := fun hb =>
        h b rfl ⟨UInt8.le_trans hl hb.1, UInt8.le_trans hb.2 hh⟩
      rw [List.nil_append, continuation, if_neg hb]
  | case3 more low high value b bytes hb ih =>
    rw [List.cons_append, continuation, if_pos hb, ih (by decide) (by decide)]
  | case4 more low high value b bytes hb =>
    rw [List.cons_append, continuation, if_neg hb]

theorem next_append {rest : List UInt8} (h : Breaks rest) (b : UInt8) (bytes : List UInt8) :
    next b (bytes ++ rest) = ((next b bytes).1, (next b bytes).2 ++ rest) := by
  unfold next
  split
  · rfl
  · next lead hlead =>
    obtain ⟨hl, hh⟩ := Lead.bounds hlead
    rw [continuation_append h _ _ _ _ _ hl hh]

theorem scan_append {rest : List UInt8} (h : Breaks rest) : ∀ bytes : List UInt8,
    scan (bytes ++ rest) = scan bytes ++ scan rest
  | [] => by simp [scan, scanFrom]
  | b :: bytes => by
    have hl : (next b bytes).2.length < (b :: bytes).length :=
      Nat.lt_succ_of_le (length_next b bytes)
    rw [List.cons_append, scan_cons, scan_cons, next_append h, scan_append h (next b bytes).2,
      Array.append_assoc]
termination_by bytes => bytes.length
decreasing_by exact hl

/-- What stands before a character is read by itself. -/
theorem lossy_append {rest : List UInt8} (h : Breaks rest) (bytes : List UInt8) :
    lossy (bytes ++ rest) = lossy bytes ++ lossy rest := by
  rw [lossy_eq, lossy_eq, lossy_eq, scan_append h, ← String.toList_inj]
  simp

/-! ## The bytes of a string -/

theorem toList_loop (bytes : ByteArray) (i : Nat) (read : List UInt8) :
    ByteArray.toList.loop bytes i read = read.reverse ++ bytes.data.toList.drop i := by
  fun_induction ByteArray.toList.loop bytes i read with
  | case1 i read h ih =>
    have hi : i < bytes.data.toList.length := h
    have hb : bytes.get! i = bytes.data.toList[i] := getElem!_pos bytes.data i h
    rw [ih, List.drop_eq_getElem_cons hi, hb, List.reverse_cons, List.append_assoc]
    rfl
  | case2 i read h =>
    have hi : bytes.data.toList.length ≤ i := Nat.not_lt.1 h
    rw [List.drop_eq_nil_of_le hi, List.append_nil]

theorem toList_toUTF8 (s : String) : s.toUTF8.toList = encode s.toList := by
  rw [String.toUTF8_eq_toByteArray, ← String.utf8Encode_toList, ByteArray.toList, toList_loop,
    List.utf8Encode, List.toList_data_toByteArray]
  rfl

theorem foldlM_loop {α : Type} (f : α → UInt8 → α) (bytes : ByteArray) {i j : Nat}
    (h : i + j = bytes.size) (a : α) :
    ByteArray.foldlM.loop (m := Id) (fun a b => pure (f a b)) bytes bytes.size (Nat.le_refl _)
        i j a =
      (bytes.data.toList.drop j).foldl f a := by
  have hsize : bytes.data.toList.length = bytes.size := rfl
  induction i generalizing j a with
  | zero =>
    rw [List.drop_eq_nil_of_le (by omega), ByteArray.foldlM.loop, dif_neg (by omega)]
    rfl
  | succ i ih =>
    have hj : j < bytes.data.toList.length := by omega
    rw [ByteArray.foldlM.loop, dif_pos (by omega), List.drop_eq_getElem_cons hj]
    exact ih (by omega) _

/-- What is counted on the bytes of a text is counted on the bytes of its characters. -/
theorem foldl_toUTF8 {α : Type} (f : α → UInt8 → α) (a : α) (s : String) :
    s.toUTF8.foldl f a = (encode s.toList).foldl f a := by
  have hloop := foldlM_loop f s.toUTF8 (Nat.add_zero _) a
  rw [List.drop_zero] at hloop
  rw [← toList_toUTF8, ByteArray.toList, toList_loop, ByteArray.foldl, ByteArray.foldlM]
  simp only [dif_pos (Nat.le_refl _)]
  exact hloop

theorem toList_toUTF8_inj {s t : String} : s.toUTF8.toList = t.toUTF8.toList ↔ s = t := by
  refine ⟨fun h => ?_, fun h => h ▸ rfl⟩
  rw [← String.ofList_toList (s := s), ← lossy_encode, ← toList_toUTF8, h, toList_toUTF8,
    lossy_encode, String.ofList_toList]

theorem toList_toUTF8_append (s t : String) :
    (s ++ t).toUTF8.toList = s.toUTF8.toList ++ t.toUTF8.toList := by
  simp only [toList_toUTF8, String.toList_append, encode, List.flatMap_append]

end ChatLink.Text.Utf8
