import Mathlib.Data.List.DropRight

/-!
# Trimming a list

What is left of a list when the members that `p` holds of are taken off both ends.  A predicate that
holds of more takes off more, unless it holds of neither end of what is left.
-/

namespace Tiai.Lib

variable {α : Type*} {p q : α → Bool} {a b l t : List α} {c : α}

/-- A member that stays is a wall to the trimming of the end. -/
lemma rdropWhile_wall (hc : p c = false) : (a ++ c :: b).rdropWhile p = a ++ c :: b.rdropWhile p := by
  induction b using List.reverseRecOn with
  | nil => exact List.rdropWhile_concat_neg _ _ _ (by simp [hc])
  | append_singleton b x ih =>
    have hassoc : a ++ c :: (b ++ [x]) = (a ++ c :: b) ++ [x] := by simp
    by_cases hx : p x = true
    · rw [hassoc, List.rdropWhile_concat_pos _ _ _ hx, List.rdropWhile_concat_pos _ _ _ hx, ih]
    · rw [hassoc, List.rdropWhile_concat_neg _ _ _ hx, List.rdropWhile_concat_neg _ _ _ hx, hassoc]

lemma rdropWhile_append_of_pos (hb : ∀ c ∈ b, p c = true) : (a ++ b).rdropWhile p = a.rdropWhile p := by
  rw [List.rdropWhile, List.reverse_append, List.dropWhile_append_of_pos fun c hc => hb c (List.mem_reverse.1 hc)]
  rfl

lemma rdropWhile_append_of_ne_nil (h : b.rdropWhile p ≠ []) : (a ++ b).rdropWhile p = a ++ b.rdropWhile p := by
  have hback : b.reverse.dropWhile p ≠ [] := fun hnil => h (by rw [List.rdropWhile, hnil, List.reverse_nil])
  rw [List.rdropWhile, List.reverse_append, List.dropWhile_append, if_neg (by simpa using hback), List.reverse_append,
    List.reverse_reverse]
  rfl

def trimBy (p : α → Bool) (l : List α) : List α := (l.dropWhile p).rdropWhile p

lemma takeWhile_wall (hc : p c = false) : (a ++ c :: b).takeWhile p = a.takeWhile p := by
  induction a with
  | nil => exact List.takeWhile_cons_of_neg (by simp [hc])
  | cons x a ih =>
    by_cases hx : p x = true
    · rw [List.cons_append, List.takeWhile_cons_of_pos hx, List.takeWhile_cons_of_pos hx, ih]
    · rw [List.cons_append, List.takeWhile_cons_of_neg hx, List.takeWhile_cons_of_neg hx]

lemma trimBy_split (p : α → Bool) (l : List α) :
    ∃ a b, l = a ++ trimBy p l ++ b ∧ (∀ c ∈ a, p c = true) ∧ ∀ c ∈ b, p c = true := by
  refine ⟨l.takeWhile p, (l.dropWhile p).rtakeWhile p, ?_, ?_, ?_⟩
  · rw [trimBy, List.append_assoc, List.rdropWhile_append_rtakeWhile, List.takeWhile_append_dropWhile]
  · exact fun c hc => List.mem_takeWhile_imp hc
  · exact fun c hc => List.mem_rtakeWhile_imp hc

lemma trimBy_last (h : (trimBy p l).getLast? = some c) : p c = false := by
  rw [trimBy] at h
  have := List.rdropWhile_last_not p (l.dropWhile p) (List.ne_nil_of_mem (List.mem_of_getLast? h))
  rw [List.getLast_of_getLast?_eq_some h] at this
  simpa using this

lemma trimBy_head (h : (trimBy p l).head? = some c) : p c = false := by
  obtain ⟨r, hr⟩ := List.rdropWhile_prefix p (l.dropWhile p)
  have hhead : (l.dropWhile p).head? = some c := by
    rw [trimBy] at h
    rw [← hr, List.head?_append, h, Option.some_or]
  have := List.head?_dropWhile_not p l
  rwa [hhead] at this

lemma trimBy_within (p : α → Bool) (l : List α) : trimBy p l <:+: l := by
  obtain ⟨a, b, hsplit, -, -⟩ := trimBy_split p l
  exact ⟨a, b, hsplit.symm⟩

lemma length_trimBy_le (p : α → Bool) (l : List α) : (trimBy p l).length ≤ l.length :=
  (trimBy_within p l).length_le

/-- Of a list that is as long as before nothing was taken. -/
lemma trimBy_eq_self_of_length (h : l.length ≤ (trimBy p l).length) : trimBy p l = l :=
  (trimBy_within p l).sublist.eq_of_length_le h

/-- A member that stays is in what is left. -/
lemma mem_trimBy (h : c ∈ l) (hc : p c = false) : c ∈ trimBy p l := by
  obtain ⟨a, b, hsplit, ha, hb⟩ := trimBy_split p l
  rw [hsplit, List.mem_append, List.mem_append] at h
  rcases h with (h | h) | h
  · rw [ha c h] at hc
    cases hc
  · exact h
  · rw [hb c h] at hc
    cases hc

/-- The trimmed list is the middle that starts and ends with what stays. -/
lemma trimBy_append (ha : ∀ c ∈ a, q c = true) (hb : ∀ c ∈ b, q c = true)
    (hhead : ∀ c, t.head? = some c → q c = false) (hlast : ∀ c, t.getLast? = some c → q c = false) :
    trimBy q (a ++ t ++ b) = t := by
  rw [trimBy, List.append_assoc, List.dropWhile_append_of_pos ha]
  cases t with
  | nil => rw [List.nil_append, List.dropWhile_eq_nil_iff.2 hb, List.rdropWhile_nil]
  | cons c t =>
    have hfront : (c :: t ++ b).dropWhile q = c :: t ++ b :=
      List.dropWhile_cons_of_neg (by simp [hhead c rfl])
    have hback : (c :: t).rdropWhile q = c :: t := by
      refine List.rdropWhile_eq_self_iff.2 fun hne => ?_
      simp [hlast _ (List.getLast?_eq_some_getLast hne)]
    rw [hfront, List.rdropWhile, List.reverse_append,
      List.dropWhile_append_of_pos fun x hx => hb x (List.mem_reverse.1 hx)]
    exact hback

/-- What goes at the end may be longer. -/
lemma trimBy_append_right (hb : ∀ c ∈ b, p c = true) : trimBy p (l ++ b) = trimBy p l := by
  unfold trimBy
  rw [List.dropWhile_append]
  split
  · rename_i hnil
    rw [List.isEmpty_iff.1 hnil, List.dropWhile_eq_nil_iff.2 hb]
  · exact rdropWhile_append_of_pos hb

/-- Nothing is taken off a list that starts and ends with what stays. -/
lemma trimBy_of_ends (hhead : ∀ c, t.head? = some c → q c = false) (hlast : ∀ c, t.getLast? = some c → q c = false) :
    trimBy q t = t := by
  have h := trimBy_append (a := []) (b := []) (q := q) (by simp) (by simp) hhead hlast
  rwa [List.nil_append, List.append_nil] at h

lemma trimBy_trimBy (p : α → Bool) (l : List α) : trimBy p (trimBy p l) = trimBy p l :=
  trimBy_of_ends (fun _ => trimBy_head) fun _ => trimBy_last

/-- **Trimming more** is trimming less when neither end of the result can go. -/
theorem trimBy_eq (hpq : ∀ c, p c = true → q c = true)
    (hhead : ∀ c, (trimBy p l).head? = some c → q c = false)
    (hlast : ∀ c, (trimBy p l).getLast? = some c → q c = false) : trimBy q l = trimBy p l := by
  obtain ⟨a, b, hsplit, ha, hb⟩ := trimBy_split p l
  conv_lhs => rw [hsplit]
  exact trimBy_append (fun c hc => hpq c (ha c hc)) (fun c hc => hpq c (hb c hc)) hhead hlast

/-- A member that stays is a wall to the trimming of either side. -/
lemma trimBy_wall (hc : p c = false) : trimBy p (a ++ c :: b) = a.dropWhile p ++ c :: b.rdropWhile p := by
  have hfront : (a ++ c :: b).dropWhile p = a.dropWhile p ++ c :: b := by
    induction a with
    | nil => exact List.dropWhile_cons_of_neg (by simp [hc])
    | cons x a ih =>
      by_cases hx : p x = true
      · rw [List.cons_append, List.dropWhile_cons_of_pos hx, List.dropWhile_cons_of_pos hx, ih]
      · rw [List.cons_append, List.dropWhile_cons_of_neg hx, List.dropWhile_cons_of_neg hx, List.cons_append]
  rw [trimBy, hfront]
  exact rdropWhile_wall hc

/-! ### Spellings -/

section

variable {β : Type*} {h : α → List β} {r : β → Bool}

/-- A list is taken from where its spelling is. -/
lemma takeWhile_flatMap (hne : ∀ a, h a ≠ []) (hr : ∀ a, ∀ b ∈ h a, r b = p a) (l : List α) :
    (l.flatMap h).takeWhile r = (l.takeWhile p).flatMap h := by
  induction l with
  | nil => rfl
  | cons a l ih =>
    rw [List.flatMap_cons]
    cases ha : p a with
    | true =>
      rw [List.takeWhile_append_of_pos fun b hb => by rw [hr a b hb, ha], ih, List.takeWhile_cons_of_pos ha,
        List.flatMap_cons]
    | false =>
      obtain ⟨b, bs, hb⟩ := List.exists_cons_of_ne_nil (hne a)
      have hstop : r b = false := by rw [hr a b (hb ▸ List.mem_cons_self), ha]
      rw [hb, List.cons_append, List.takeWhile_cons_of_neg (by simp [hstop]), List.takeWhile_cons_of_neg (by simp [ha])]
      rfl

lemma dropWhile_flatMap (hne : ∀ a, h a ≠ []) (hr : ∀ a, ∀ b ∈ h a, r b = p a) (l : List α) :
    (l.flatMap h).dropWhile r = (l.dropWhile p).flatMap h := by
  have hsplit : (l.takeWhile p).flatMap h ++ (l.dropWhile p).flatMap h = l.flatMap h := by
    rw [← List.flatMap_append, List.takeWhile_append_dropWhile]
  rw [← List.takeWhile_append_dropWhile (p := r) (l := l.flatMap h), takeWhile_flatMap hne hr] at hsplit
  exact (List.append_cancel_left hsplit).symm

lemma rtakeWhile_flatMap (hne : ∀ a, h a ≠ []) (hr : ∀ a, ∀ b ∈ h a, r b = p a) (l : List α) :
    (l.flatMap h).rtakeWhile r = (l.rtakeWhile p).flatMap h := by
  have hback : ∀ a, ∀ b ∈ (List.reverse ∘ h) a, r b = p a := fun a b hb => hr a b (List.mem_reverse.1 hb)
  rw [List.rtakeWhile, List.rtakeWhile, List.reverse_flatMap, takeWhile_flatMap (by simpa using hne) hback,
    List.reverse_flatMap]
  simp [Function.comp_def]

lemma rdropWhile_flatMap (hne : ∀ a, h a ≠ []) (hr : ∀ a, ∀ b ∈ h a, r b = p a) (l : List α) :
    (l.flatMap h).rdropWhile r = (l.rdropWhile p).flatMap h := by
  have hback : ∀ a, ∀ b ∈ (List.reverse ∘ h) a, r b = p a := fun a b hb => hr a b (List.mem_reverse.1 hb)
  rw [List.rdropWhile, List.rdropWhile, List.reverse_flatMap, dropWhile_flatMap (by simpa using hne) hback,
    List.reverse_flatMap]
  simp [Function.comp_def]

lemma trimBy_map (f : α → β) (l : List α) : trimBy r (l.map f) = (trimBy (r ∘ f) l).map f := by
  rw [trimBy, trimBy, List.rdropWhile, List.rdropWhile, List.dropWhile_map, ← List.map_reverse, List.dropWhile_map,
    ← List.map_reverse]

end

end Tiai.Lib
