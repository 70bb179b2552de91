import Mathlib.Data.List.DropRight

/-! # Histories

A history is a list of what happened, the latest entry at its end. Many a state keeps no more of it
than what came since the last entry of some kind, or a list of what some entries hold; this module
tells how both change when an entry is added.
-/

namespace Screencast.History

variable {α β : Type} {mark : α → Bool} {history later : List α} {x : α}

/-- What happened since the last marked entry. -/
def since (mark : α → Bool) (history : List α) : List α := history.rtakeWhile (!mark ·)

/-- A marked entry begins a new stretch. -/
theorem since_concat_of_marked (history : List α) (marked : mark x = true) :
    since mark (history ++ [x]) = [] :=
  List.rtakeWhile_concat_neg _ _ x (by simp [marked])

/-- An unmarked entry joins the stretch. -/
theorem since_concat_of_unmarked (history : List α) (unmarked : mark x = false) :
    since mark (history ++ [x]) = since mark history ++ [x] :=
  List.rtakeWhile_concat_pos _ _ x (by simp [unmarked])

/-- Unmarked entries join the stretch, however many they are. -/
theorem since_append_of_unmarked (history : List α) (unmarked : ∀ x ∈ later, mark x = false) :
    since mark (history ++ later) = since mark history ++ later := by
  induction later using List.reverseRecOn with
  | nil => rw [List.append_nil, List.append_nil]
  | append_singleton later x ih =>
      obtain ⟨before, last⟩ := List.forall_mem_append.mp unmarked
      rw [← List.append_assoc, since_concat_of_unmarked _ (last x (List.mem_singleton_self x)),
        ih before, List.append_assoc]

/-- What came before a marked entry does not matter after it. -/
theorem since_append_marked_cons (history later : List α) (marked : mark x = true) :
    since mark (history ++ x :: later) = since mark later := by
  induction later using List.reverseRecOn with
  | nil => exact since_concat_of_marked history marked
  | append_singleton later y ih =>
      rw [← List.cons_append, ← List.append_assoc]
      cases other : mark y with
      | true => rw [since_concat_of_marked _ other, since_concat_of_marked _ other]
      | false => rw [since_concat_of_unmarked _ other, since_concat_of_unmarked _ other, ih]

/-- The stretch is the end of the history. -/
theorem since_suffix (mark : α → Bool) (history : List α) : since mark history <:+ history :=
  List.rtakeWhile_suffix _ _

/-- The more entries are marked, the less came since the last of them. -/
theorem since_suffix_since {more : α → Bool} (also : ∀ x, mark x = true → more x = true)
    (history : List α) : since more history <:+ since mark history := by
  induction history using List.reverseRecOn with
  | nil => exact List.suffix_rfl
  | append_singleton history x ih =>
      cases marked : more x with
      | true =>
          rw [since_concat_of_marked _ marked]
          exact List.nil_suffix
      | false =>
          have unmarked : mark x = false :=
            Bool.eq_false_iff.mpr fun found => Bool.eq_false_iff.mp marked (also x found)
          rw [since_concat_of_unmarked _ marked, since_concat_of_unmarked _ unmarked]
          exact List.suffix_append_self_iff.mpr ih

/-- What happened since the last mark is the last of the parts into which the marks divide a
history, and the one that grows. -/
theorem exists_splitOnP_eq (mark : α → Bool) (history : List α) :
    ∃ parts, ∀ later, (∀ x ∈ later, mark x = false) →
      (history ++ later).splitOnP mark = parts ++ [since mark history ++ later] := by
  induction history using List.reverseRecOn with
  | nil => exact ⟨[], fun later unmarked => List.splitOnP_eq_singleton unmarked⟩
  | append_singleton history x ih =>
      obtain ⟨parts, divided⟩ := ih
      cases marked : mark x with
      | true =>
          refine ⟨history.splitOnP mark, fun later unmarked => ?_⟩
          rw [since_concat_of_marked history marked, List.append_assoc, List.singleton_append,
            List.splitOnP_append_cons _ _ marked, List.splitOnP_eq_singleton unmarked]
          rfl
      | false =>
          refine ⟨parts, fun later unmarked => ?_⟩
          rw [since_concat_of_unmarked history marked, List.append_assoc, List.append_assoc]
          exact divided (x :: later) (List.forall_mem_cons.mpr ⟨marked, unmarked⟩)

theorem filterMap_singleton (f : α → Option β) (x : α) : [x].filterMap f = (f x).toList := by
  cases found : f x with
  | none => exact List.filterMap_cons_none found
  | some y => exact List.filterMap_cons_some found

theorem filterMap_concat (f : α → Option β) (history : List α) (x : α) :
    (history ++ [x]).filterMap f = history.filterMap f ++ (f x).toList := by
  rw [List.filterMap_append, filterMap_singleton]

/-- What an entry that holds something of a kind held last. -/
def latest? (f : α → Option β) (history : List α) : Option β := (history.filterMap f).getLast?

/-- The last entry decides, if it says anything. -/
theorem latest?_concat (f : α → Option β) (history : List α) (x : α) :
    latest? f (history ++ [x]) = (f x).or (latest? f history) := by
  rw [latest?, filterMap_concat, List.getLast?_append]
  cases f x <;> rfl

/-- What is dropped later may be dropped before. -/
theorem dropWhile_append_dropWhile {p q : α → Bool} (weaker : ∀ x, p x = true → q x = true)
    (history later : List α) :
    (history.dropWhile p ++ later).dropWhile q = (history ++ later).dropWhile q := by
  induction history with
  | nil => rfl
  | cons x history ih =>
      by_cases dropped : p x = true
      · rw [List.dropWhile_cons_of_pos dropped, List.cons_append,
          List.dropWhile_cons_of_pos (weaker x dropped)]
        exact ih
      · rw [List.dropWhile_cons_of_neg dropped]

/-- If every entry before one that is dropped is to be dropped too, the entries that are not to be
dropped are left. -/
theorem dropWhile_eq_filter {p : α → Bool}
    (early : history.Pairwise fun x y => p y = true → p x = true) :
    history.dropWhile p = history.filter (!p ·) := by
  induction history with
  | nil => rfl
  | cons x history ih =>
      obtain ⟨first, rest⟩ := List.pairwise_cons.mp early
      by_cases dropped : p x = true
      · rw [List.dropWhile_cons_of_pos dropped, List.filter_cons_of_neg (by simp [dropped])]
        exact ih rest
      · rw [List.dropWhile_cons_of_neg dropped]
        refine (List.filter_eq_self.mpr fun y inside => ?_).symm
        have kept : p y ≠ true := by
          rcases List.mem_cons.mp inside with rfl | later
          · exact dropped
          · exact fun found => dropped (first y later found)
        rw [Bool.eq_false_iff.mpr kept, Bool.not_false]

/-- An entry of a history that was continued lies in its old part or in its new one. -/
theorem split_of_append {new earlier : List α} (split : history ++ new = earlier ++ x :: later) :
    (∃ rest, history = earlier ++ x :: rest) ∨
      ∃ before, new = before ++ x :: later ∧ earlier = history ++ before := by
  rcases List.append_eq_append_iff.mp split with ⟨before, whole, rest⟩ | ⟨rest, rfl, whole⟩
  · exact .inr ⟨before, rest, whole⟩
  · cases rest with
    | nil => exact .inr ⟨[], whole.symm, by rw [List.append_nil, List.append_nil]⟩
    | cons first rest =>
        obtain ⟨rfl, -⟩ := List.cons.inj whole
        exact .inl ⟨rest, rfl⟩

end Screencast.History
