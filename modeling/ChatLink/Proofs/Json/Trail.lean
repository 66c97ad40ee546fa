import ChatLink.Json.Trail
import ChatLink.Proofs.Json.Root
import ChatLink.Proofs.Json.Turns

/-!
# Walks in range

Whatever the tokens and the source of a cursor are, its walks visit ever later indices and compute
none behind the array (`Trail.InRange`, `Cursor.keeps`). A walk past a value leaves out no index,
and a search goes from key to key past what comes behind each of them (`Cursor.visited_skipTrail`,
`Cursor.isChain_findTrail`).

So walks end also where an array was cut off. What a search finds in the array that is left is what
it finds in the whole one, if that is left too (`Cursor.find?_take`).
-/

namespace ChatLink.Json

/-! ## Visited and computed indices -/

/-- From the index on, the walk visits ever later indices, and computes none behind the array. -/
structure Trail.InRange {α : Type} (size i : Nat) (t : Trail α) : Prop where
  increasing : t.visited.Pairwise (· < ·)
  le_visited : ∀ k ∈ t.visited, i ≤ k
  computed_le : ∀ k ∈ t.computed, k ≤ size

namespace Trail.InRange

variable {α : Type} {size i j : Nat} {t : Trail α}

theorem ended (size i : Nat) (result : α) : (Trail.ended i result).InRange size i where
  increasing := List.pairwise_singleton _ _
  le_visited := by simp [Trail.ended]
  computed_le := by simp [Trail.ended]

/-- One index more in front. -/
theorem after (h : t.InRange size j) (hij : i < j) {computed : List Nat}
    (hc : ∀ k ∈ computed, k ≤ size) : (t.after i computed).InRange size i where
  increasing := .cons (fun k hk => Nat.lt_of_lt_of_le hij (h.le_visited k hk)) h.increasing
  le_visited := by
    intro k hk
    rcases List.mem_cons.1 hk with rfl | hk
    · exact Nat.le_refl _
    · exact Nat.le_trans (Nat.le_of_lt hij) (h.le_visited k hk)
  computed_le := by
    intro k hk
    exact (List.mem_append.1 hk).elim (hc k) (h.computed_le k)

/-- The index before, of a token that is there. -/
theorem next (h : t.InRange size (i + 1)) (hi : i < size) :
    (t.after i [i + 1]).InRange size i :=
  h.after (Nat.lt_succ_self i) fun _ hk => List.mem_singleton.1 hk ▸ hi

end Trail.InRange

namespace Cursor

variable {c : Cursor} {i : Nat}

theorem inRange_skipFromTrail (c : Cursor) (boundary i : Nat) :
    (c.skipFromTrail boundary i).InRange c.tokens.size i := by
  fun_induction c.skipFromTrail boundary i with
  | case1 boundary i h hs ih => exact ih.next h
  | case2 boundary i | case3 boundary i => exact .ended _ i i

theorem inRange_skipTrail (c : Cursor) (i : Nat) :
    (c.skipTrail i).InRange c.tokens.size i := by
  unfold skipTrail
  split
  · next t ht =>
    exact (c.inRange_skipFromTrail t.stop (i + 1)).next (Array.getElem?_eq_some_iff.1 ht).1
  · exact .ended _ i _

theorem inRange_findFromTrail (c : Cursor) (limit : Nat) (key : List UInt8) (i : Nat) :
    (c.findFromTrail limit key i).InRange c.tokens.size i := by
  fun_induction c.findFromTrail limit key i with
  | case1 i h hs hkey =>
    exact ⟨List.pairwise_singleton _ _, by simp, fun _ hk => List.mem_singleton.1 hk ▸ h⟩
  | case2 i h hs hkey hlt ih =>
    refine ih.after hlt (List.forall_mem_cons.2 ⟨h, ?_⟩)
    exact (c.inRange_skipTrail (i + 1)).computed_le
  | case3 i | case4 i => exact .ended _ i none

theorem inRange_findTrail (c : Cursor) (object : Nat) (key : String) :
    (c.findTrail object key).InRange c.tokens.size object := by
  unfold findTrail
  split
  · next t ht =>
    split
    · exact (c.inRange_findFromTrail _ _ _).next (Array.getElem?_eq_some_iff.1 ht).1
    · exact .ended _ object none
  · exact .ended _ object none

/-- A walk past a value leaves out no index between the first one and the last one. -/
theorem visited_skipFromTrail (c : Cursor) (boundary i : Nat) :
    (c.skipFromTrail boundary i).visited = List.range' i (c.skipFrom boundary i + 1 - i) := by
  fun_induction c.skipFromTrail boundary i with
  | case1 boundary i h hs ih =>
    have hskip : c.skipFrom boundary i = c.skipFrom (max boundary c.tokens[i].stop) (i + 1) :=
      skipFrom_of_lt (Array.getElem?_eq_getElem h) hs
    have hle := c.le_skipFrom (max boundary c.tokens[i].stop) (i + 1)
    rw [Trail.after, ih, hskip, Nat.sub_add_comm (Nat.le_of_succ_le hle), List.range'_succ,
      Nat.add_sub_add_right]
  | case2 boundary i h hs =>
    rw [skipFrom, dif_pos h, if_neg hs, Nat.add_sub_cancel_left]
    rfl
  | case3 boundary i h =>
    rw [skipFrom, dif_neg h, Nat.add_sub_cancel_left]
    rfl

theorem visited_skipTrail {t : Token} (ht : c.tokens[i]? = some t) :
    (c.skipTrail i).visited = List.range' i (c.skip i + 1 - i) := by
  have hle := c.le_skipFrom t.stop (i + 1)
  rw [skipTrail, skip, ht]
  dsimp only
  rw [Trail.after, visited_skipFromTrail, Nat.sub_add_comm (Nat.le_of_succ_le hle),
    List.range'_succ, Nat.add_sub_add_right]

theorem head?_findFromTrail (c : Cursor) (limit : Nat) (key : List UInt8) (i : Nat) :
    (c.findFromTrail limit key i).visited.head? = some i := by
  unfold findFromTrail
  repeat' split
  all_goals rfl

/-- A search goes from each key to the first token behind the value that comes after the key. -/
theorem isChain_findFromTrail (c : Cursor) (limit : Nat) (key : List UInt8) (i : Nat) :
    (c.findFromTrail limit key i).visited.IsChain fun a b => b = c.skip (a + 1) := by
  fun_induction c.findFromTrail limit key i with
  | case1 i | case3 i | case4 i => exact .singleton i
  | case2 i h hs hkey _ ih =>
    refine ih.cons fun b hb => ?_
    rw [head?_findFromTrail, Option.mem_some] at hb
    rw [← hb, result_skipTrail]

theorem isChain_findTrail (c : Cursor) (object : Nat) (key : String) :
    (c.findTrail object key).visited.tail.IsChain fun a b => b = c.skip (a + 1) := by
  unfold findTrail
  repeat' split
  · exact c.isChain_findFromTrail _ _ _
  · exact .nil
  · exact .nil

theorem result_findFromTrail (c : Cursor) (limit : Nat) (key : List UInt8) (i : Nat) :
    (c.findFromTrail limit key i).result = c.findFrom limit key i := by
  fun_induction c.findFromTrail limit key i with
  | case1 i h hs hkey => rw [findFrom, dif_pos h, if_pos hs, if_pos hkey]
  | case2 i h hs hkey _ ih =>
    rw [Trail.result_after, ih, findFrom.eq_def c limit key i, dif_pos h, if_pos hs, if_neg hkey,
      result_skipTrail]
  | case3 i h hs => rw [findFrom, dif_pos h, if_neg hs, Trail.result_ended]
  | case4 i h => rw [findFrom, dif_neg h, Trail.result_ended]

theorem result_findTrail (c : Cursor) (object : Nat) (key : String) :
    (c.findTrail object key).result = c.find? object key := by
  rw [findTrail, find?]
  cases c.tokens[object]? with
  | none => rfl
  | some t =>
    dsimp only
    split
    · exact c.result_findFromTrail _ _ _
    · rfl

theorem skipFrom_le (c : Cursor) (boundary : Nat) (hi : i ≤ c.tokens.size) :
    c.skipFrom boundary i ≤ c.tokens.size := by
  fun_induction c.skipFrom boundary i with
  | case1 boundary i h hs ih => exact ih h
  | case2 | case3 => exact hi

theorem skip_le (c : Cursor) (i : Nat) : c.skip i ≤ c.tokens.size := by
  unfold skip
  split
  · next t ht => exact c.skipFrom_le _ (Array.getElem?_eq_some_iff.1 ht).1
  · exact Nat.le_refl _

/-- What holds of the walks from an index : where they end, and at which indices they stop to
look. -/
structure Keeps (c : Cursor) (i : Nat) (key : String) : Prop where
  skip_eq : (c.skipTrail i).result = c.skip i
  skip_inRange : (c.skipTrail i).InRange c.tokens.size i
  skip_visited : ∀ t ∈ c.tokens[i]?, (c.skipTrail i).visited = List.range' i (c.skip i + 1 - i)
  skip_le : c.skip i ≤ c.tokens.size
  find_eq : (c.findTrail i key).result = c.find? i key
  find_inRange : (c.findTrail i key).InRange c.tokens.size i
  find_visited : (c.findTrail i key).visited.tail.IsChain fun a b => b = c.skip (a + 1)
  find_lt : ∀ v ∈ c.find? i key, v < c.tokens.size

theorem keeps (c : Cursor) (i : Nat) (key : String) : c.Keeps i key where
  skip_eq := c.result_skipTrail i
  skip_inRange := c.inRange_skipTrail i
  skip_visited _ ht := visited_skipTrail ht
  skip_le := c.skip_le i
  find_eq := c.result_findTrail i key
  find_inRange := c.inRange_findTrail i key
  find_visited := c.isChain_findTrail i key
  find_lt _ hv := lt_of_find? hv

/-! ## Arrays that are cut off -/

/-- The cursor sees the first tokens only. -/
def take (c : Cursor) (k : Nat) : Cursor := ⟨c.source, c.tokens.take k⟩

section Take

variable {k : Nat}

theorem size_take (c : Cursor) (k : Nat) : (c.take k).tokens.size = min k c.tokens.size := by
  simp [take]

theorem getElem?_take (c : Cursor) (hi : i < k) : (c.take k).tokens[i]? = c.tokens[i]? := by
  simp [take, Array.getElem?_extract, hi]

/-- What is seen of an array that is cut off stands in front of the cut. -/
theorem of_getElem?_take {t : Token} (h : (c.take k).tokens[i]? = some t) :
    i < k ∧ c.tokens[i]? = some t := by
  have hlt := (Array.getElem?_eq_some_iff.1 h).1
  rw [size_take, Nat.lt_min] at hlt
  exact ⟨hlt.1, getElem?_take c hlt.1 ▸ h⟩

theorem isString_take (c : Cursor) (hi : i < k) (written : List UInt8) :
    (c.take k).isString i written = c.isString i written := by
  rw [isString, isString, kind?, kind?, raw?, raw?, getElem?_take c hi]
  rfl

/-- A walk past a value ends where the array does, if it does not end before. -/
theorem skipFrom_take (c : Cursor) (boundary : Nat) (hi : i ≤ k) :
    (c.take k).skipFrom boundary i = min k (c.skipFrom boundary i) := by
  fun_induction c.skipFrom boundary i with
  | case1 boundary i h hs ih =>
    rcases Nat.lt_or_eq_of_le hi with hlt | rfl
    · rw [skipFrom_of_lt ((getElem?_take c hlt).trans (Array.getElem?_eq_getElem h)) hs, ih hlt]
    · rw [skipFrom_of_behind fun t ht => absurd (of_getElem?_take ht).1 (Nat.lt_irrefl _),
        Nat.min_eq_left (Nat.le_of_succ_le (c.le_skipFrom _ _))]
  | case2 boundary i h hs =>
    rw [Nat.min_eq_right hi, skipFrom_of_behind fun t ht => ?_]
    cases (Array.getElem?_eq_getElem h).symm.trans (of_getElem?_take ht).2
    exact Nat.not_lt.1 hs
  | case3 boundary i h =>
    rw [Nat.min_eq_right hi, skipFrom_of_behind fun t ht => ?_]
    exact absurd (Array.getElem?_eq_some_iff.1 (of_getElem?_take ht).2).1 h

theorem skip_take (c : Cursor) (k i : Nat) : (c.take k).skip i = min k (c.skip i) := by
  rw [skip]
  cases ht : (c.take k).tokens[i]? with
  | some t =>
    obtain ⟨hi, ht⟩ := of_getElem?_take ht
    rw [skip, ht]
    exact c.skipFrom_take t.stop hi
  | none =>
    dsimp only
    rw [size_take, skip]
    cases hu : c.tokens[i]? with
    | none => rfl
    | some u =>
      -- there is a token, but it was cut off
      have hk : k ≤ i := by
        by_contra hlt
        cases (getElem?_take c (Nat.not_le.1 hlt) ▸ ht).symm.trans hu
      have hi := (Array.getElem?_eq_some_iff.1 hu).1
      have hskip := c.le_skipFrom u.stop (i + 1)
      dsimp only
      omega

/-- A search that begins behind a cut finds nothing, nor does one at the last key in front of it. -/
theorem findFrom_take_of_le (c : Cursor) (limit : Nat) (key : List UInt8) (hi : k ≤ i + 1) :
    (c.take k).findFrom limit key i = none := by
  have hbehind : ∀ j, k ≤ j → ∀ t ∈ (c.take k).tokens[j]?, limit ≤ t.start := fun j hj t ht =>
    absurd (of_getElem?_take ht).1 (Nat.not_lt.2 hj)
  cases ht : (c.take k).tokens[i]? with
  | none => exact findFrom_of_behind key (by simp [ht])
  | some t =>
    have hlt := (of_getElem?_take ht).1
    by_cases hs : t.start < limit
    · have hnone : (c.take k).tokens[i + 1]? = none :=
        Option.eq_none_iff_forall_not_mem.2 fun u hu =>
          absurd (of_getElem?_take hu).1 (Nat.not_lt.2 hi)
      have hskip := (c.take k).lt_skip_succ (Array.getElem?_eq_some_iff.1 ht).1
      rw [findFrom_of_lt key ht hs, hnone, Option.any_none, Bool.and_false, if_neg (by simp)]
      exact findFrom_of_behind key (hbehind _ (by omega))
    · refine findFrom_of_behind key fun u hu => ?_
      cases ht.symm.trans hu
      exact Nat.not_lt.1 hs

/-- A search finds what stands in front of the cut. -/
theorem findFrom_take (c : Cursor) (k limit : Nat) (key : List UInt8) (i : Nat) :
    (c.take k).findFrom limit key i = (c.findFrom limit key i).filter (· < k) := by
  fun_induction c.findFrom limit key i with
  | case1 i h hs hkey =>
    rcases Nat.lt_or_ge (i + 1) k with hlt | hge
    · have hi := Nat.lt_of_succ_lt hlt
      have ht := (getElem?_take c hi).trans (Array.getElem?_eq_getElem h)
      rw [findFrom_of_lt key ht hs, isString_take c hi, getElem?_take c hlt, if_pos hkey]
      simp [Option.filter, hlt]
    · rw [findFrom_take_of_le c limit key hge]
      simp [Option.filter, hge]
  | case2 i h hs hkey hlt ih =>
    rw [← ih]
    rcases Nat.lt_or_ge (i + 1) k with hk | hge
    · have hi := Nat.lt_of_succ_lt hk
      have ht := (getElem?_take c hi).trans (Array.getElem?_eq_getElem h)
      rw [findFrom_of_lt key ht hs, isString_take c hi, getElem?_take c hk, if_neg hkey, skip_take]
      rcases Nat.le_total (c.skip (i + 1)) k with hle | hle
      · rw [Nat.min_eq_right hle]
      · rw [Nat.min_eq_left hle, findFrom_take_of_le c limit key (Nat.le_succ k),
          findFrom_take_of_le c limit key (Nat.le_succ_of_le hle)]
    · rw [findFrom_take_of_le c limit key hge, findFrom_take_of_le c limit key (by omega)]
  | case3 i h hs =>
    refine findFrom_of_behind key fun t ht => ?_
    cases (Array.getElem?_eq_getElem h).symm.trans (of_getElem?_take ht).2
    exact Nat.not_lt.1 hs
  | case4 i h =>
    refine findFrom_of_behind key fun t ht => ?_
    exact absurd (Array.getElem?_eq_some_iff.1 (of_getElem?_take ht).2).1 h

theorem find?_take (c : Cursor) (k object : Nat) (key : String) :
    (c.take k).find? object key = (c.find? object key).filter (· < k) := by
  have hfrom : ∀ limit, (c.take k).findFrom limit key.toUTF8.toList (object + 1) =
      (c.findFrom limit key.toUTF8.toList (object + 1)).filter (· < k) := fun limit =>
    c.findFrom_take k limit key.toUTF8.toList (object + 1)
  rw [find?, find?]
  by_cases hk : object < k
  · rw [getElem?_take c hk]
    cases c.tokens[object]? with
    | none => rfl
    | some t =>
      dsimp only
      split
      · exact hfrom t.stop
      · rfl
  · -- the object was cut off, and its members stand behind it
    have hnone : (c.take k).tokens[object]? = none :=
      Option.eq_none_iff_forall_not_mem.2 fun t ht => hk (of_getElem?_take ht).1
    rw [hnone]
    cases c.tokens[object]? with
    | none => rfl
    | some t =>
      dsimp only
      split
      · rw [← hfrom, findFrom_take_of_le c t.stop _ (by omega)]
      · rfl

end Take

end Cursor

/-- Reading in turns ends on every text, and a walk over tokens ends on every array, within the
array : a turn moves the position on and has no result only if something is wrong with the text, and
a search in the first tokens finds what the search in all of them finds there. -/
theorem ends_in_range (capacity : Nat) (text : List UInt8) :
    (∀ s, Lexer.Comes capacity text s → Lexer.Proceeds capacity text s) ∧
      tokenizeInTurns capacity text = (tokenize capacity text).mapError .fault ∧
      ∀ (source : Array UInt8) (tokens : Array Token) (k i : Nat) (key : String),
        (Cursor.take ⟨source, tokens⟩ k).Keeps i key ∧
          (Cursor.take ⟨source, tokens⟩ k).find? i key =
            (Cursor.find? ⟨source, tokens⟩ i key).filter (· < k) :=
  ⟨fun _ h => h.proceeds, tokenizeInTurns_eq capacity text,
    fun source tokens k i key => ⟨Cursor.keeps _ i key, Cursor.find?_take ⟨source, tokens⟩ k i key⟩⟩

end ChatLink.Json
