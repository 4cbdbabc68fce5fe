import Mathlib.Data.List.Nodup
import Tiai.Lib.Sql

/-!
# Pages of an answer

Each page is a query of its own, and of rows that its `ORDER BY` leaves tied the database may choose
another order each time.  `order` is a total preorder on the rows.

* `Arranged` — the orders the database may answer in;
* `ShownOnce` — the pages, one answer each, hold every row once, whatever the answers;
* `Whole` — no group of tied rows goes over the end of a page;
* `shownOnce_iff` — the one is the other;
* `every_size_iff` — for every size of page, when no two rows are tied;
* `transCmp_on`, `transCmp_then`, `transCmp_nullsLast` — the orders an `ORDER BY` is made of.
-/

namespace Tiai.Lib.Sql

open Std (TransCmp OrientedCmp ReflCmp)

variable {α : Type} {order : α → α → Ordering}

/-- An answer to a query with that `ORDER BY`. -/
structure Arranged (order : α → α → Ordering) (rows answer : List α) : Prop where
  perm : answer.Perm rows
  sorted : answer.Pairwise fun a b => (order a b).isLE = true

/-- `ceil(total / size)`. -/
def pageCount (size total : ℕ) : ℕ := (total + (size - 1)) / size

/-- The first pages, each of its own answer. -/
def shown (size : ℕ) (answers : ℕ → List α) (count : ℕ) : List α :=
  (List.range count).flatMap fun k => page (k + 1) size (answers k)

/-- All the pages together are the rows, whatever the database answers to each request. -/
def ShownOnce (order : α → α → Ordering) (size : ℕ) (rows : List α) : Prop :=
  ∀ answers : ℕ → List α, (∀ k, Arranged order rows (answers k)) →
    (shown size answers (pageCount size rows.length)).Perm rows

/-- How many rows come before `a`. -/
def before (order : α → α → Ordering) (rows : List α) (a : α) : ℕ := rows.countP fun b => (order b a).isLT

/-- How many rows come before `a` or are tied with it. -/
def upto (order : α → α → Ordering) (rows : List α) (a : α) : ℕ := rows.countP fun b => (order b a).isLE

/-- No group of tied rows is on both sides of that place. -/
def UncutAt (order : α → α → Ordering) (rows : List α) (m : ℕ) : Prop :=
  ∀ a ∈ rows, ¬(before order rows a < m ∧ m < upto order rows a)

/-- No group of tied rows goes over the end of a page. -/
def Whole (order : α → α → Ordering) (size : ℕ) (rows : List α) : Prop :=
  ∀ k, UncutAt order rows (k * size)

section Places

variable {rows answer l r : List α} {a b : α} {m : ℕ}

variable [TransCmp order]

lemma before_le_upto (rows : List α) (h : order a b = .lt) : upto order rows a ≤ before order rows b := by
  refine List.countP_mono_left fun c _ hc => ?_
  rw [Ordering.isLT_iff_eq_lt]
  exact TransCmp.lt_of_isLE_of_lt hc h

/-- The place of a row is among those of its group. -/
lemma Arranged.place (h : Arranged order rows answer) (hsplit : answer = l ++ a :: r) :
    before order rows a ≤ l.length ∧ l.length < upto order rows a := by
  have hsorted := hsplit ▸ h.sorted
  obtain ⟨-, hr, hl⟩ := List.pairwise_append.1 hsorted
  have hself : (order a a).isLE = true := ReflCmp.isLE_rfl
  constructor
  · -- Nothing from the row on comes before it.
    have hnone : (a :: r).countP (fun b => (order b a).isLT) = 0 := by
      refine List.countP_eq_zero.2 fun b hb => ?_
      have hle : (order a b).isLE = true := by
        rcases List.mem_cons.1 hb with rfl | hb
        · exact hself
        · exact List.rel_of_pairwise_cons hr hb
      rw [Ordering.isLT_iff_eq_lt]
      exact OrientedCmp.not_lt_of_isLE hle
    rw [before, ← h.perm.countP_eq, hsplit, List.countP_append, hnone]
    exact List.countP_le_length
  · have hall : l.countP (fun b => (order b a).isLE) = l.length :=
      List.countP_eq_length.2 fun b hb => hl b hb a List.mem_cons_self
    have hpos : 0 < (a :: r).countP fun b => (order b a).isLE :=
      List.countP_pos_iff.2 ⟨a, List.mem_cons_self, hself⟩
    rw [upto, ← h.perm.countP_eq, hsplit, List.countP_append, hall]
    omega

/-- The row at one of the places of a group is tied with it. -/
lemma Arranged.tied (h : Arranged order rows answer) (hsplit : answer = l ++ b :: r)
    (hlow : before order rows a ≤ l.length) (hhigh : l.length < upto order rows a) :
    order b a = .eq := by
  obtain ⟨hb, hb'⟩ := h.place hsplit
  cases hord : order b a with
  | eq => rfl
  | lt =>
    have := before_le_upto rows hord
    omega
  | gt =>
    have := before_le_upto rows (OrientedCmp.lt_of_gt hord)
    omega

/-- The groups of the rows before a place that cuts none end there, -/
lemma Arranged.upto_le (h : Arranged order rows answer) (hm : UncutAt order rows m)
    (ha : a ∈ answer.take m) : upto order rows a ≤ m := by
  obtain ⟨l, r, hsplit⟩ := List.append_of_mem ha
  have hwhole : answer = l ++ a :: (r ++ answer.drop m) := by
    rw [← List.cons_append, ← List.append_assoc, ← hsplit, List.take_append_drop]
  have hlen : l.length < m := by
    have := congrArg List.length hsplit
    simp only [List.length_take, List.length_append, List.length_cons] at this
    omega
  have hlow := (h.place hwhole).1
  have := hm a (h.perm.subset (List.mem_of_mem_take ha))
  omega

/-- and those of the rows from it on do not. -/
lemma Arranged.lt_upto (h : Arranged order rows answer) (ha : a ∈ answer.drop m) :
    m < upto order rows a := by
  obtain ⟨l, r, hsplit⟩ := List.append_of_mem ha
  have hwhole : answer = (answer.take m ++ l) ++ a :: r := by
    rw [List.append_assoc, ← hsplit, List.take_append_drop]
  have hlen : m ≤ (answer.take m ++ l).length := by
    have := List.length_pos_of_mem ha
    rw [List.length_drop] at this
    simp only [List.length_append, List.length_take]
    omega
  have := (h.place hwhole).2
  omega

/-- The rows of the groups that end on a page. -/
def ending (order : α → α → Ordering) (rows : List α) (m size : ℕ) (a : α) : Bool :=
  m < upto order rows a ∧ upto order rows a ≤ m + size

/-- **A page that cuts no group** holds the groups that end on it, in any answer. -/
theorem Arranged.page_eq_filter (h : Arranged order rows answer) {size : ℕ} (hm : UncutAt order rows m)
    (hm' : UncutAt order rows (m + size)) :
    (answer.drop m).take size = answer.filter (ending order rows m size) := by
  have hfront : ∀ a ∈ answer.take m, ¬ending order rows m size a = true := by
    intro a ha
    have := h.upto_le hm ha
    simp only [ending, decide_eq_true_iff]
    omega
  have hpage : ∀ a ∈ (answer.drop m).take size, ending order rows m size a = true := by
    intro a ha
    have hlow := h.lt_upto (List.mem_of_mem_take ha)
    have hhigh := h.upto_le (a := a) hm' (by
      rw [List.take_drop] at ha
      exact List.mem_of_mem_drop ha)
    exact decide_eq_true ⟨hlow, hhigh⟩
  have hback : ∀ a ∈ (answer.drop m).drop size, ¬ending order rows m size a = true := by
    intro a ha
    rw [List.drop_drop] at ha
    have := h.lt_upto ha
    simp only [ending, decide_eq_true_iff]
    omega
  conv_rhs => rw [← List.take_append_drop m answer, ← List.take_append_drop size (answer.drop m)]
  rw [List.filter_append, List.filter_append, List.filter_eq_nil_iff.2 hfront,
    List.filter_eq_self.2 hpage, List.filter_eq_nil_iff.2 hback, List.nil_append, List.append_nil]

lemma upto_pos (order : α → α → Ordering) [TransCmp order] (ha : a ∈ rows) : 0 < upto order rows a :=
  List.countP_pos_iff.2 ⟨a, ha, ReflCmp.isLE_rfl⟩

end Places

section Pages

variable {rows : List α} {a b : α} {size : ℕ}

/-- The pages are as many as it takes. -/
lemma le_pageCount_mul (hsize : 0 < size) (total : ℕ) : total ≤ pageCount size total * size := by
  have h := Nat.div_add_mod (total + (size - 1)) size
  have hmod := Nat.mod_lt (total + (size - 1)) hsize
  rw [Nat.mul_comm] at h
  rw [pageCount]
  omega

lemma lt_pageCount {k total : ℕ} (hsize : 0 < size) (h : k * size < total) : k < pageCount size total := by
  by_contra hle
  have := Nat.mul_le_mul_right size (Nat.not_lt.1 hle)
  have := le_pageCount_mul hsize total
  omega

/-- The rows up to a group are those before it and its own. -/
lemma upto_eq (order : α → α → Ordering) (rows : List α) (a : α) :
    upto order rows a = before order rows a + rows.countP fun b => decide (order b a = .eq) := by
  unfold upto before
  induction rows with
  | nil => rfl
  | cons b rows ih =>
    rw [List.countP_cons, List.countP_cons, List.countP_cons, ih]
    cases order b a <;> simp <;> omega

lemma upto_le_length (a : α) : upto order rows a ≤ rows.length := List.countP_le_length

/-- An order that ties no two rows has no group to cut. -/
lemma Whole.of_total (hrows : rows.Nodup) (htotal : ∀ a ∈ rows, ∀ b ∈ rows, order b a = .eq → b = a)
    (size : ℕ) : Whole order size rows := by
  rintro k a ha ⟨hlow, hhigh⟩
  have hone : rows.countP (fun b => decide (order b a = .eq)) ≤ 1 := by
    classical
    calc rows.countP (fun b => decide (order b a = .eq))
        ≤ rows.countP (fun b => b == a) := by
          refine List.countP_mono_left fun b hb hab => ?_
          exact beq_iff_eq.2 (htotal a ha b hb (of_decide_eq_true hab))
      _ ≤ 1 := List.nodup_iff_count_le_one.1 hrows a
  have hsum := upto_eq order rows a
  omega

variable [TransCmp order]

/-- The first pages hold the groups that end on them: a page more is the groups that end on it. -/
lemma shown_perm (h : Whole order size rows) {answers : ℕ → List α}
    (hanswers : ∀ k, Arranged order rows (answers k)) (n : ℕ) :
    (shown size answers n).Perm (rows.filter fun a => decide (upto order rows a ≤ n * size)) := by
  induction n with
  | zero =>
    have hnone : (rows.filter fun a => decide (upto order rows a ≤ 0 * size)) = [] := by
      refine List.filter_eq_nil_iff.2 fun a ha => ?_
      have := upto_pos order ha
      rw [decide_eq_true_iff]
      omega
    rw [hnone]
    exact .nil
  | succ n ih =>
    have hnext : (n + 1) * size = n * size + size := Nat.succ_mul n size
    have hpage : page (n + 1) size (answers n) = (answers n).filter (ending order rows (n * size) size) :=
      (hanswers n).page_eq_filter (h n) (hnext ▸ h (n + 1))
    have hshown : shown size answers (n + 1) =
        shown size answers n ++ (answers n).filter (ending order rows (n * size) size) := by
      rw [shown, List.range_succ, List.flatMap_append, List.flatMap_singleton, hpage]
      rfl
    have hparts : rows.filter (fun a => decide (upto order rows a ≤ n * size)) ++
        rows.filter (ending order rows (n * size) size) =
        (rows.filter fun a => decide (upto order rows a ≤ (n + 1) * size)).filter
            (fun a => decide (upto order rows a ≤ n * size)) ++
          (rows.filter fun a => decide (upto order rows a ≤ (n + 1) * size)).filter
            (fun a => !decide (upto order rows a ≤ n * size)) := by
      rw [List.filter_filter, List.filter_filter]
      congr 1
      · refine List.filter_congr fun a _ => ?_
        rw [Bool.eq_iff_iff, Bool.and_eq_true, decide_eq_true_iff, decide_eq_true_iff]
        omega
      · refine List.filter_congr fun a _ => ?_
        rw [Bool.eq_iff_iff, ending, Bool.and_eq_true, Bool.not_eq_true', decide_eq_true_iff,
          decide_eq_true_iff, decide_eq_false_iff_not]
        omega
    rw [hshown]
    refine (ih.append ((hanswers n).perm.filter _)).trans ?_
    rw [hparts]
    exact List.filter_append_perm _ _

lemma shownOnce_of_whole (hsize : 0 < size) (h : Whole order size rows) : ShownOnce order size rows := by
  intro answers hanswers
  have hall : (rows.filter fun a => decide (upto order rows a ≤ pageCount size rows.length * size)) =
      rows := by
    refine List.filter_eq_self.2 fun a _ => decide_eq_true ?_
    exact Nat.le_trans (upto_le_length a) (le_pageCount_mul hsize rows.length)
  have hshown := shown_perm h hanswers (pageCount size rows.length)
  rwa [hall] at hshown

/-! ### A group that is cut -/

lemma arranged_orderBy : Arranged order rows (orderBy order rows) where
  perm := List.mergeSort_perm _ _
  sorted := List.pairwise_mergeSort (fun a b c => TransCmp.isLE_trans)
    (fun a b => by
      cases h : order a b with
      | lt => rfl
      | eq => rfl
      | gt =>
        rw [OrientedCmp.lt_of_gt h]
        rfl) rows

/-- Two tied neighbours may come the other way round. -/
lemma Arranged.swap {l r : List α} (h : Arranged order rows (l ++ a :: b :: r)) (htied : order a b = .eq) :
    Arranged order rows (l ++ b :: a :: r) where
  perm := ((List.Perm.swap a b r).append_left l).trans h.perm
  sorted := by
    obtain ⟨hl, hr, hlr⟩ := List.pairwise_append.1 h.sorted
    obtain ⟨ha, hr⟩ := List.pairwise_cons.1 hr
    obtain ⟨hb, hr⟩ := List.pairwise_cons.1 hr
    refine List.pairwise_append.2 ⟨hl, List.pairwise_cons.2 ⟨?_, List.pairwise_cons.2 ⟨?_, hr⟩⟩, ?_⟩
    · intro c hc
      rcases List.mem_cons.1 hc with rfl | hc
      · rw [OrientedCmp.eq_symm htied]
        rfl
      · exact hb c hc
    · exact fun c hc => ha c (List.mem_cons_of_mem _ hc)
    · intro c hc d hd
      refine hlr c hc d ?_
      rcases List.mem_cons.1 hd with rfl | hd
      · exact List.mem_cons_of_mem _ List.mem_cons_self
      · rcases List.mem_cons.1 hd with rfl | hd
        · exact List.mem_cons_self
        · exact List.mem_cons_of_mem _ (List.mem_cons_of_mem _ hd)

/-- The row at a place is on the page of that place. -/
lemma mem_page {l r : List α} {n : ℕ} (hlow : n * size ≤ l.length) (hhigh : l.length < (n + 1) * size) :
    a ∈ page (n + 1) size (l ++ a :: r) := by
  rw [Nat.succ_mul] at hhigh
  refine List.mem_iff_getElem?.2 ⟨l.length - n * size, ?_⟩
  rw [page, Nat.add_sub_cancel, List.getElem?_take_of_lt (by omega), List.getElem?_drop,
    Nat.add_sub_cancel' hlow, List.getElem?_append_right (Nat.le_refl _), Nat.sub_self]
  rfl

/-- A row that two pages show is shown twice. -/
lemma not_nodup_shown {answers : ℕ → List α} {i j n : ℕ} (hij : i < j) (hj : j < n)
    (hi : a ∈ page (i + 1) size (answers i)) (ha : a ∈ page (j + 1) size (answers j)) :
    ¬(shown size answers n).Nodup := by
  intro hnodup
  obtain ⟨-, hdisjoint⟩ := List.nodup_flatMap.1 hnodup
  have hpages := List.pairwise_iff_getElem.1 hdisjoint i j 
    (by simpa using Nat.lt_trans hij hj) (by simpa using hj) hij
  rw [List.getElem_range, List.getElem_range] at hpages
  exact hpages hi ha

/-- The two rows about a place. -/
lemma exists_neighbours {m : ℕ} {rows : List α} (hlow : 0 < m) (hhigh : m < rows.length) :
    ∃ l a b r, rows = l ++ a :: b :: r ∧ l.length + 1 = m := by
  obtain ⟨m, rfl⟩ : ∃ n, m = n + 1 := Nat.exists_eq_succ_of_ne_zero (by omega)
  refine ⟨rows.take m, rows[m], rows[m + 1], rows.drop (m + 1 + 1), ?_, ?_⟩
  · rw [← List.drop_eq_getElem_cons, ← List.drop_eq_getElem_cons, List.take_append_drop]
  · rw [List.length_take]
    omega

/-- Of two tied rows about the end of a page, the first is on that page; and on the next, when the database
answers that request the other way round. -/
lemma not_shownOnce_of_tied {l r : List α} {k : ℕ} (hsize : 0 < size) (hrows : rows.Nodup)
    (harr : Arranged order rows (l ++ a :: b :: r)) (htied : order a b = .eq)
    (hl : l.length + 1 = (k + 1) * size) : ¬ShownOnce order size rows := by
  intro h
  have hprev : (k + 1) * size = k * size + size := Nat.succ_mul k size
  have hnext : (k + 1 + 1) * size = (k + 1) * size + size := Nat.succ_mul (k + 1) size
  have hlast : (k + 1) * size < rows.length := by
    have := harr.perm.length_eq
    rw [List.length_append, List.length_cons, List.length_cons] at this
    omega
  obtain ⟨answers, hback, hthere⟩ : ∃ answers : ℕ → List α, answers (k + 1) = l ++ b :: a :: r ∧
      ∀ j, j ≠ k + 1 → answers j = l ++ a :: b :: r :=
    ⟨Function.update (fun _ => l ++ a :: b :: r) (k + 1) (l ++ b :: a :: r), Function.update_self _ _ _,
      fun _ hj => Function.update_of_ne hj _ _⟩
  have hanswers : ∀ j, Arranged order rows (answers j) := by
    intro j
    by_cases hj : j = k + 1
    · rw [hj, hback]
      exact harr.swap htied
    · rw [hthere j hj]
      exact harr
  have hbefore : a ∈ page (k + 1) size (answers k) := by
    rw [hthere k (Nat.ne_of_lt k.lt_succ_self)]
    exact mem_page (by omega) (by omega)
  have hafter : a ∈ page (k + 1 + 1) size (answers (k + 1)) := by
    have hcons : l ++ b :: a :: r = (l ++ [b]) ++ a :: r := by rw [List.append_assoc, List.singleton_append]
    have hplace : (l ++ [b]).length = (k + 1) * size := by rw [List.length_append, List.length_singleton, hl]
    rw [hback, hcons]
    exact mem_page (by omega) (by omega)
  exact not_nodup_shown k.lt_succ_self (lt_pageCount hsize hlast) hbefore hafter
    ((h answers hanswers).nodup_iff.2 hrows)

lemma whole_of_shownOnce (hsize : 0 < size) (hrows : rows.Nodup) (h : ShownOnce order size rows) :
    Whole order size rows := by
  rintro k a ha ⟨hlow, hhigh⟩
  have harr : Arranged order rows (orderBy order rows) := arranged_orderBy
  have hlen : k * size < (orderBy order rows).length := by
    rw [harr.perm.length_eq]
    exact Nat.lt_of_lt_of_le hhigh (upto_le_length a)
  obtain ⟨k, rfl⟩ : ∃ n, k = n + 1 := Nat.exists_eq_succ_of_ne_zero (by
    rintro rfl
    rw [Nat.zero_mul] at hlow
    omega)
  obtain ⟨l, x, y, r, hsplit, hl⟩ := exists_neighbours (m := (k + 1) * size) (Nat.mul_pos k.succ_pos hsize) hlen
  rw [hsplit] at harr
  -- The rows about the cut are both of the group that it cuts.
  have hx : order x a = .eq := harr.tied rfl (by omega) (by omega)
  have hy : order y a = .eq := by
    have hmid : l ++ x :: y :: r = (l ++ [x]) ++ y :: r := by rw [List.append_assoc, List.singleton_append]
    have hplace : (l ++ [x]).length = (k + 1) * size := by rw [List.length_append, List.length_singleton, hl]
    exact harr.tied hmid (hplace ▸ Nat.le_of_lt hlow) (hplace ▸ hhigh)
  have hxy : order x y = .eq := TransCmp.eq_trans hx (OrientedCmp.eq_symm hy)
  exact not_shownOnce_of_tied hsize hrows harr hxy hl h

/-- **Whatever order the database takes among tied rows, request by request**, the pages show every row once
exactly when no group of tied rows is cut by the end of a page. -/
theorem shownOnce_iff (hsize : 0 < size) (hrows : rows.Nodup) :
    ShownOnce order size rows ↔ Whole order size rows :=
  ⟨whole_of_shownOnce hsize hrows, shownOnce_of_whole hsize⟩

/-- **For every size of page**, the pages show every row once exactly when no two rows are tied. -/
theorem every_size_iff (hrows : rows.Nodup) : (∀ size, 0 < size → ShownOnce order size rows) ↔
    ∀ a ∈ rows, ∀ b ∈ rows, order b a = .eq → b = a := by
  constructor
  · intro h a ha b hb htied
    -- Pages of one row cut any group of two.
    have hwhole := (shownOnce_iff Nat.one_pos hrows).1 (h 1 Nat.one_pos) (before order rows a + 1) a ha
    have hsum := upto_eq order rows a
    have hone : (rows.filter fun b => decide (order b a = .eq)).length ≤ 1 := by
      rw [← List.countP_eq_length_filter]
      omega
    have hmem {c : α} (hc : c ∈ rows) (hca : order c a = .eq) :
        c ∈ rows.filter fun b => decide (order b a = .eq) := List.mem_filter.2 ⟨hc, decide_eq_true hca⟩
    have ha' := hmem ha ReflCmp.compare_self
    have hb' := hmem hb htied
    match hgroup : rows.filter fun b => decide (order b a = .eq) with
    | [] =>
      rw [hgroup] at ha'
      cases ha'
    | [c] =>
      rw [hgroup, List.mem_singleton] at ha' hb'
      exact hb'.trans ha'.symm
    | _ :: _ :: _ =>
      rw [hgroup] at hone
      simp at hone
  · intro htotal size hsize
    exact shownOnce_of_whole hsize (Whole.of_total hrows htotal size)

end Pages

/-! ### Orders -/

section Orders

variable {κ : Type} {first second : α → α → Ordering} {cmp : κ → κ → Ordering}

/-- By a key. -/
lemma transCmp_on (cmp : κ → κ → Ordering) [TransCmp cmp] (key : α → κ) :
    TransCmp fun a b => cmp (key a) (key b) where
  eq_swap := OrientedCmp.eq_swap
  isLE_trans := TransCmp.isLE_trans

/-- By one, then by another. -/
lemma transCmp_then (hfirst : TransCmp first) (hsecond : TransCmp second) :
    TransCmp fun a b => (first a b).then (second a b) :=
  inferInstanceAs (TransCmp (compareLex first second))

/-- `DESC`. -/
lemma transCmp_desc (hfirst : TransCmp first) : TransCmp fun a b => first b a := TransCmp.opposite

instance transCmp_nullsLast [TransCmp cmp] : TransCmp (nullsLast cmp) where
  eq_swap := by
    intro a b
    match a, b with
    | some a, some b =>
      have : cmp a b = (cmp b a).swap := OrientedCmp.eq_swap
      exact this
    | some _, none => rfl
    | none, some _ => rfl
    | none, none => rfl
  isLE_trans := by
    intro a b c hab hbc
    match a, b, c, hab, hbc with
    | some a, some b, some c, hab, hbc =>
      have : (cmp a c).isLE = true := TransCmp.isLE_trans hab hbc
      exact this
    | some _, _, none, _, _ => rfl
    | none, _, none, _, _ => rfl
    | none, some _, _, hab, _ => cases hab
    | _, none, some _, _, hbc => cases hbc

end Orders

end Tiai.Lib.Sql
