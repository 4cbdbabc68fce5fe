import Mathlib
import Tiai.Agent.Console
import Tiai.Lib.Escaped
import Tiai.Lib.Trim

/-!
# Distinguished names

`collector/directory.go`: a distinguished name is cut into its RDNs, and the value of one is shown.  A name is read rune
by rune; here it is the list of them.

* `splitDN`, `rdnValue` — the functions;
* `Token`, `ValueString`, `Rdn`, `DN` — the string form of RFC 4514;
* `splitDN_eq` — the loop cuts at the commas that are not escaped, and trims;
* `names_survive_iff` — which names are split again as they were joined, and which values are given back.
-/

namespace Tiai.DistinguishedName

open Lib Escaped

/-! ### The functions -/

/-- `strings.TrimSpace`, on runes. -/
def trimText (s : List Char) : List Char := trimBy Console.isSpaceChar s

structure Splitting where
  parts : List (List Char)
  current : List Char
  escaped : Bool

/-- The body of the loop of `splitDN`. -/
def Splitting.next (s : Splitting) (r : Char) : Splitting :=
  if s.escaped then ⟨s.parts, s.current ++ [r], false⟩
  else if r = '\\' then ⟨s.parts, s.current ++ [r], true⟩
  else if r = ',' then ⟨s.parts ++ [trimText s.current], [], false⟩
  else ⟨s.parts, s.current ++ [r], false⟩

def splitDN (dn : List Char) : List (List Char) :=
  let s := dn.foldl Splitting.next ⟨[], [], false⟩
  if s.current ≠ [] ∨ s.parts ≠ [] then s.parts ++ [trimText s.current] else s.parts

/-- `strings.Join(parts, ",")`. -/
def joinDN (parts : List (List Char)) : List Char := join ',' parts

/-- The loop of `rdnValue`. -/
def unescape : Bool → List Char → List Char
  | _, [] => []
  | escaped, r :: value =>
    if escaped ∨ r ≠ '\\' then r :: unescape false value else unescape true value

def rdnValue (rdn : List Char) : List Char :=
  match rdn.dropWhile fun r => r ≠ '=' with
  | [] => []
  | _ :: value => trimText (unescape false value)

/-! ### RFC 4514 -/

/-- `escaped`: what is never written as it is. -/
def isEscapedChar (c : Char) : Bool := c ∈ ['"', '+', ',', ';', '<', '>']

def isHexDigit (c : Char) : Bool := c.isDigit || ('A' ≤ c ∧ c ≤ 'F') || ('a' ≤ c ∧ c ≤ 'f')

inductive Token
  /-- A character that stands for itself. -/
  | plain (c : Char)
  /-- A backslash, and the character that it stands for. -/
  | pair (c : Char)
  /-- A backslash, and a byte in hexadecimal. -/
  | hex (a b : Char)
deriving DecidableEq

def Token.text : Token → List Char
  | plain c => [c]
  | pair c => ['\\', c]
  | hex a b => ['\\', a, b]

def Token.ok : Token → Bool
  | plain c => c ≠ '\x00' ∧ c ≠ '\\' ∧ isEscapedChar c = false
  | pair c => c ∈ ['\\', ' ', '#', '='] ∨ isEscapedChar c
  | hex a b => isHexDigit a ∧ isHexDigit b

/-- `string`: a space stands for itself at neither end, a number sign not at the front. -/
structure ValueString where
  tokens : List Token
  ok : ∀ t ∈ tokens, t.ok = true
  lead : tokens.head? ≠ some (.plain ' ') ∧ tokens.head? ≠ some (.plain '#')
  trail : tokens.getLast? ≠ some (.plain ' ')

/-- `hexstring`. -/
structure HexString where
  digits : List (Char × Char)
  ne_nil : digits ≠ []
  ok : ∀ d ∈ digits, isHexDigit d.1 = true ∧ isHexDigit d.2 = true

inductive AttributeValue
  | string (s : ValueString)
  | hexString (s : HexString)

/-- The tokens a value is written with; those of a `hexstring` all stand for themselves. -/
def AttributeValue.tokens : AttributeValue → List Token
  | string s => s.tokens
  | hexString s => .plain '#' :: s.digits.flatMap fun d => [.plain d.1, .plain d.2]

def textOf (tokens : List Token) : List Char := tokens.flatMap Token.text

/-- `attributeType`: the characters of a `descr` and of a `numericoid`. -/
structure AttributeType where
  chars : List Char
  ne_nil : chars ≠ []
  ok : ∀ c ∈ chars, c.isAlphanum = true ∨ c = '-' ∨ c = '.'

structure Attribute where
  type : AttributeType
  value : AttributeValue

def Attribute.text (a : Attribute) : List Char := a.type.chars ++ '=' :: textOf a.value.tokens

/-- `relativeDistinguishedName`. -/
structure Rdn where
  first : List Attribute
  last : Attribute

def Rdn.text (r : Rdn) : List Char := r.first.flatMap (fun a => a.text ++ ['+']) ++ r.last.text

abbrev DN := List Rdn

def DN.text (dn : DN) : List Char := join ',' (dn.map Rdn.text)

/-! ### The loops -/

variable {s t x y : List Char} {c : Char}

/-- What the loop has, when it ends, is what it had and what it cuts of the rest. -/
lemma foldl_next (s : Splitting) (dn : List Char) :
    (dn.foldl Splitting.next s).parts ++ [trimText (dn.foldl Splitting.next s).current] =
      s.parts ++ (cut '\\' ',' s.escaped s.current dn).map trimText := by
  induction dn generalizing s with
  | nil =>
    rcases s with ⟨parts, current, _ | _⟩ <;> rfl
  | cons r dn ih =>
    rcases s with ⟨parts, current, _ | _⟩
    · rw [List.foldl_cons, ih, cut]
      simp only [Splitting.next, Bool.false_eq_true, if_false]
      split
      · rfl
      · split
        · rw [List.map_cons, List.append_assoc, List.singleton_append]
        · rfl
    · exact ih _

lemma foldl_next_parts (s : Splitting) (dn : List Char) (h : s.current ≠ [] ∨ s.parts ≠ []) :
    (dn.foldl Splitting.next s).current ≠ [] ∨ (dn.foldl Splitting.next s).parts ≠ [] := by
  induction dn generalizing s with
  | nil => exact h
  | cons r dn ih =>
    refine ih _ ?_
    unfold Splitting.next
    split
    · exact Or.inl (by simp)
    · split
      · exact Or.inl (by simp)
      · split
        · exact Or.inr (by simp)
        · exact Or.inl (by simp)

/-- A name is cut at the commas that are not escaped, and its parts are trimmed. -/
theorem splitDN_eq (dn : List Char) :
    splitDN dn = if dn = [] then [] else (cut '\\' ',' false [] dn).map trimText := by
  cases dn with
  | nil => rfl
  | cons r dn =>
    have hsome : (dn.foldl Splitting.next (Splitting.next ⟨[], [], false⟩ r)).current ≠ [] ∨
        (dn.foldl Splitting.next (Splitting.next ⟨[], [], false⟩ r)).parts ≠ [] := by
      refine foldl_next_parts _ dn ?_
      simp only [Splitting.next, Bool.false_eq_true, if_false]
      split
      · exact Or.inl (List.cons_ne_nil _ _)
      · split
        · exact Or.inr (List.cons_ne_nil _ _)
        · exact Or.inl (List.cons_ne_nil _ _)
    have hloop := foldl_next ⟨[], [], false⟩ (r :: dn)
    rw [if_neg (List.cons_ne_nil r dn), splitDN]
    exact (if_pos hsome).trans hloop

/-! ### Names that are well formed -/

/-- Every comma is escaped, and nothing at the end is. -/
def Balanced (s : List Char) : Prop := scan '\\' ',' false s = some false

lemma Balanced.append (hs : Balanced s) (ht : Balanced t) : Balanced (s ++ t) := by
  rw [Balanced, scan_append, hs]
  exact ht

lemma balanced_of_forall (h : ∀ c ∈ s, c ≠ '\\' ∧ c ≠ ',') : Balanced s := by
  induction s with
  | nil => rfl
  | cons c s ih =>
    obtain ⟨hesc, hsep⟩ := h c List.mem_cons_self
    rw [Balanced, scan, if_neg hesc, if_neg hsep]
    exact ih fun d hd => h d (List.mem_cons_of_mem c hd)

lemma balanced_flatMap {α : Type} {f : α → List Char} {l : List α} (h : ∀ a ∈ l, Balanced (f a)) :
    Balanced (l.flatMap f) := by
  induction l with
  | nil => rfl
  | cons a l ih =>
    rw [List.flatMap_cons]
    exact (h a List.mem_cons_self).append (ih fun b hb => h b (List.mem_cons_of_mem a hb))

lemma ne_of_isHexDigit (h : isHexDigit c = true) : c ≠ '\\' ∧ c ≠ ',' := by
  constructor <;> rintro rfl <;> cases h

lemma isSpaceChar_of_visible (h : 33 ≤ c.toNat ∧ c.toNat ≤ 126) : Console.isSpaceChar c = false := by
  have hne : ∀ n : UInt32, n.toNat < 33 ∨ 126 < n.toNat → c.val ≠ n := by
    rintro n hn rfl
    change 33 ≤ c.val.toNat ∧ c.val.toNat ≤ 126 at h
    omega
  have hlt : ¬ (0x2000 : UInt32) ≤ c.val := by
    rw [UInt32.le_iff_toNat_le]
    change 33 ≤ c.val.toNat ∧ c.val.toNat ≤ 126 at h
    have : (0x2000 : UInt32).toNat = 8192 := rfl
    omega
  unfold Console.isSpaceChar
  simp only [List.mem_cons, List.not_mem_nil, or_false, Bool.or_eq_false_iff, Bool.and_eq_false_imp,
    decide_eq_false_iff_not, decide_eq_true_eq, not_or]
  refine ⟨?_, fun hle => absurd hle hlt⟩
  refine ⟨hne _ ?_, hne _ ?_, hne _ ?_, hne _ ?_, hne _ ?_, hne _ ?_, hne _ ?_, hne _ ?_, hne _ ?_, hne _ ?_, hne _ ?_,
    hne _ ?_, hne _ ?_, hne _ ?_⟩ <;> decide

lemma isSpaceChar_of_isHexDigit (h : isHexDigit c = true) : Console.isSpaceChar c = false := by
  refine isSpaceChar_of_visible ?_
  unfold isHexDigit Char.isDigit at h
  simp only [Bool.or_eq_true, Bool.and_eq_true, decide_eq_true_eq, ge_iff_le, Char.le_def,
    UInt32.le_iff_toNat_le] at h
  change (48 ≤ c.toNat ∧ c.toNat ≤ 57 ∨ 65 ≤ c.toNat ∧ c.toNat ≤ 70) ∨ 97 ≤ c.toNat ∧ c.toNat ≤ 102 at h
  omega

lemma AttributeType.char (type : AttributeType) (hc : c ∈ type.chars) :
    Console.isSpaceChar c = false ∧ c ≠ '\\' ∧ c ≠ ',' := by
  have h := type.ok c hc
  refine ⟨isSpaceChar_of_visible ?_, ?_, ?_⟩
  · rcases h with h | rfl | rfl
    · unfold Char.isAlphanum Char.isAlpha Char.isUpper Char.isLower Char.isDigit at h
      simp only [Bool.or_eq_true, Bool.and_eq_true, decide_eq_true_eq, ge_iff_le, UInt32.le_iff_toNat_le] at h
      change ((65 ≤ c.toNat ∧ c.toNat ≤ 90) ∨ 97 ≤ c.toNat ∧ c.toNat ≤ 122) ∨ 48 ≤ c.toNat ∧ c.toNat ≤ 57 at h
      omega
    · decide
    · decide
  · rintro rfl
    rcases h with h | h | h <;> cases h
  · rintro rfl
    rcases h with h | h | h <;> cases h

lemma AttributeValue.ok (v : AttributeValue) {t : Token} (ht : t ∈ v.tokens) : t.ok = true := by
  have hdigit : ∀ {d}, isHexDigit d = true → (Token.plain d).ok = true := by
    intro d hd
    refine decide_eq_true ⟨?_, (ne_of_isHexDigit hd).1, Bool.eq_false_iff.2 fun hesc => ?_⟩
    · rintro rfl
      cases hd
    · have hesc := of_decide_eq_true hesc
      simp only [List.mem_cons, List.not_mem_nil, or_false] at hesc
      rcases hesc with rfl | rfl | rfl | rfl | rfl | rfl <;> cases hd
  cases v with
  | string s => exact s.ok t ht
  | hexString s =>
    rcases List.mem_cons.1 ht with rfl | ht
    · rfl
    · obtain ⟨d, hd, ht⟩ := List.mem_flatMap.1 ht
      rcases List.mem_cons.1 ht with rfl | ht
      · exact hdigit (s.ok d hd).1
      · obtain rfl := List.mem_singleton.1 ht
        exact hdigit (s.ok d hd).2

lemma Token.balanced {t : Token} (h : t.ok = true) : Balanced t.text := by
  cases t with
  | plain c =>
    obtain ⟨-, hesc, hspecial⟩ := of_decide_eq_true h
    refine balanced_of_forall fun d hd => ?_
    obtain rfl := List.mem_singleton.1 hd
    refine ⟨hesc, ?_⟩
    rintro rfl
    cases hspecial
  | pair c => rfl
  | hex a b =>
    obtain ⟨-, hb⟩ := of_decide_eq_true h
    have hrest : Balanced [b] := balanced_of_forall fun d hd => by
      obtain rfl := List.mem_singleton.1 hd
      exact ne_of_isHexDigit hb
    exact hrest

lemma balanced_textOf {tokens : List Token} (h : ∀ t ∈ tokens, t.ok = true) : Balanced (textOf tokens) :=
  balanced_flatMap fun t ht => Token.balanced (h t ht)

lemma AttributeType.balanced (type : AttributeType) : Balanced (type.chars ++ ['=']) := by
  refine balanced_of_forall fun c hc => ?_
  rcases List.mem_append.1 hc with hc | hc
  · exact (type.char hc).2
  · obtain rfl := List.mem_singleton.1 hc
    decide

lemma Attribute.text_eq (a : Attribute) : a.text = a.type.chars ++ ['='] ++ textOf a.value.tokens := by
  rw [text, List.append_assoc, List.singleton_append]

lemma Attribute.balanced (a : Attribute) : Balanced a.text := by
  rw [text_eq]
  exact a.type.balanced.append (balanced_textOf fun t ht => a.value.ok ht)

/-! ### What trimming leaves of an RDN -/

/-- What is before the last value. -/
def Rdn.front (r : Rdn) : List Char := r.first.flatMap (fun a => a.text ++ ['+']) ++ r.last.type.chars

lemma Rdn.text_eq (r : Rdn) : r.text = r.front ++ '=' :: textOf r.last.value.tokens := by
  rw [text, front, Attribute.text, List.append_assoc]

lemma Rdn.front_balanced (r : Rdn) : Balanced (r.front ++ ['=']) := by
  rw [front, List.append_assoc]
  refine (balanced_flatMap fun a _ => ?_).append r.last.type.balanced
  exact a.balanced.append (balanced_of_forall (by simp))

lemma Rdn.balanced (r : Rdn) : Balanced r.text := by
  rw [text_eq, ← List.singleton_append, ← List.append_assoc]
  exact r.front_balanced.append (balanced_textOf fun t ht => r.last.value.ok ht)

/-- An RDN starts with no white space. -/
lemma Rdn.front_cons (r : Rdn) : ∃ c rest, r.front = c :: rest ∧ Console.isSpaceChar c = false := by
  have htype : ∀ type : AttributeType, ∃ c rest, type.chars = c :: rest ∧ Console.isSpaceChar c = false := by
    intro type
    obtain ⟨c, rest, hchars⟩ := List.exists_cons_of_ne_nil type.ne_nil
    refine ⟨c, rest, hchars, (type.char ?_).1⟩
    rw [hchars]
    exact List.mem_cons_self
  unfold front
  cases r.first with
  | nil => exact htype r.last.type
  | cons a first =>
    obtain ⟨c, rest, hchars, hc⟩ := htype a.type
    rw [List.flatMap_cons, Attribute.text, hchars]
    exact ⟨c, _, rfl, hc⟩

/-- White space that is not escaped. -/
def Token.isBlank : Token → Bool
  | plain c => Console.isSpaceChar c
  | _ => false

/-- Before the white space at its end that is not escaped, the value ends in an escaped space. -/
def EndsInEscapedSpace (tokens : List Token) : Prop := (tokens.rdropWhile Token.isBlank).getLast? = some (.pair ' ')

instance (tokens : List Token) : Decidable (EndsInEscapedSpace tokens) := inferInstanceAs (Decidable (_ = _))

/-- A token that is neither ends in a character that is not trimmed. -/
lemma Token.text_last {t : Token} (hok : t.ok = true) (hblank : ¬ t.isBlank = true) (hspace : t ≠ .pair ' ') :
    ∃ y c, t.text = y ++ [c] ∧ Console.isSpaceChar c = false := by
  cases t with
  | plain c => exact ⟨[], c, rfl, Bool.eq_false_iff.2 hblank⟩
  | pair c =>
    refine ⟨['\\'], c, rfl, ?_⟩
    have hc := of_decide_eq_true hok
    simp only [isEscapedChar, List.mem_cons, List.not_mem_nil, or_false, decide_eq_true_eq] at hc
    rcases hc with (rfl | rfl | rfl | rfl) | rfl | rfl | rfl | rfl | rfl | rfl
    · decide
    · exact absurd rfl hspace
    all_goals decide
  | hex a b => exact ⟨['\\', a], b, rfl, isSpaceChar_of_isHexDigit (of_decide_eq_true hok).2⟩

lemma scan_rdropWhile {tokens : List Token} (hok : ∀ t ∈ tokens, t.ok = true) :
    scan '\\' ',' false ((textOf tokens).rdropWhile Console.isSpaceChar) =
      some (decide (EndsInEscapedSpace tokens)) := by
  induction tokens using List.reverseRecOn with
  | nil => rfl
  | append_singleton tokens t ih =>
    have hokt : t.ok = true := hok t (by simp)
    have hokts : ∀ t ∈ tokens, t.ok = true := fun u hu => hok u (List.mem_append_left _ hu)
    have htext : textOf (tokens ++ [t]) = textOf tokens ++ t.text := by
      rw [textOf, List.flatMap_append, List.flatMap_singleton, ← textOf]
    by_cases hblank : t.isBlank = true
    · cases t with
      | plain c =>
        have hc : Console.isSpaceChar c = true := hblank
        have hends : EndsInEscapedSpace (tokens ++ [.plain c]) ↔ EndsInEscapedSpace tokens := by
          rw [EndsInEscapedSpace, List.rdropWhile_concat_pos _ _ _ hblank, ← EndsInEscapedSpace]
        rw [htext, Token.text, List.rdropWhile_concat_pos _ _ _ hc, ih hokts, decide_eq_decide.2 hends]
      | pair c => cases hblank
      | hex a b => cases hblank
    · have hends : EndsInEscapedSpace (tokens ++ [t]) ↔ t = .pair ' ' := by
        rw [EndsInEscapedSpace, List.rdropWhile_concat_neg _ _ _ hblank, List.getLast?_concat, Option.some_inj]
      by_cases hspace : t = .pair ' '
      · rw [decide_eq_true (hends.2 hspace), htext, hspace]
        have hback : (textOf tokens ++ Token.text (.pair ' ')).rdropWhile Console.isSpaceChar =
            textOf tokens ++ ['\\'] := by
          have hsplit : textOf tokens ++ Token.text (.pair ' ') = textOf tokens ++ ['\\'] ++ [' '] := by
            rw [List.append_assoc]
            rfl
          rw [hsplit, List.rdropWhile_concat_pos _ _ _ (by decide), List.rdropWhile_concat_neg _ _ _ (by decide)]
        rw [hback, scan_append, balanced_textOf hokts]
        rfl
      · obtain ⟨y, c, hy, hc⟩ := Token.text_last hokt hblank hspace
        have hstays : ¬ Console.isSpaceChar c = true := Bool.eq_false_iff.1 hc
        rw [decide_eq_false (mt hends.1 hspace), htext, hy, ← List.append_assoc,
          List.rdropWhile_concat_neg _ _ _ hstays, List.append_assoc, ← hy, ← htext]
        exact balanced_textOf hok

lemma Rdn.trim_text (r : Rdn) :
    trimText r.text = r.front ++ ['='] ++ (textOf r.last.value.tokens).rdropWhile Console.isSpaceChar := by
  obtain ⟨c, rest, hfront, hc⟩ := r.front_cons
  rw [text_eq, trimText, trimBy_wall (by decide), hfront, List.dropWhile_cons_of_neg (Bool.eq_false_iff.1 hc),
    List.append_assoc, List.singleton_append]

lemma Rdn.scan_trim (r : Rdn) :
    scan '\\' ',' false (trimText r.text) = some (decide (EndsInEscapedSpace r.last.value.tokens)) := by
  rw [trim_text, scan_append, r.front_balanced]
  exact scan_rdropWhile fun t ht => r.last.value.ok ht

/-! ### Names that are split again -/

variable {dn : DN}

lemma trimText_eq_self (hhead : ∀ c, s.head? = some c → Console.isSpaceChar c = false)
    (hlast : ∀ c, s.getLast? = some c → Console.isSpaceChar c = false) : trimText s = s := by
  have h : trimText ([] ++ s ++ []) = s :=
    trimBy_append (fun _ hc => absurd hc List.not_mem_nil) (fun _ hc => absurd hc List.not_mem_nil) hhead hlast
  rwa [List.nil_append, List.append_nil] at h

lemma trimText_trimText (s : List Char) : trimText (trimText s) = trimText s :=
  trimText_eq_self (fun _ => trimBy_head) fun _ => trimBy_last

lemma splitDN_text (dn : DN) : splitDN dn.text = dn.map fun r => trimText r.text := by
  rw [splitDN_eq]
  cases dn with
  | nil => rfl
  | cons r dn =>
    have hne : DN.text (r :: dn) ≠ [] := by
      obtain ⟨c, rest, hfront, -⟩ := r.front_cons
      rw [DN.text, List.map_cons, Rdn.text_eq, hfront]
      cases dn with
      | nil => exact List.cons_ne_nil _ _
      | cons q dn =>
        rw [List.map_cons, join_cons_cons]
        exact List.cons_ne_nil _ _
    have hbalanced : ∀ s ∈ (r :: dn).map Rdn.text, scan '\\' ',' false s = some false := by
      intro s hs
      obtain ⟨q, -, rfl⟩ := List.mem_map.1 hs
      exact q.balanced
    rw [if_neg hne, DN.text, cut_join (by decide) (by simp) (fun s hs => by rw [hbalanced s hs]; rfl)
      fun s hs => hbalanced s (List.dropLast_subset _ hs), List.map_map]
    rfl

lemma joinDN_ne_nil {r : Rdn} : joinDN ((r :: dn).map fun r => trimText r.text) ≠ [] := by
  obtain ⟨c, rest, hfront, -⟩ := r.front_cons
  rw [List.map_cons, Rdn.trim_text, hfront, joinDN]
  cases dn with
  | nil => exact List.cons_ne_nil _ _
  | cons q dn =>
    rw [List.map_cons, join_cons_cons]
    exact List.cons_ne_nil _ _

/-- A name is split again as it was joined exactly when no RDN but the last ends in an escaped space. -/
lemma splitDN_join_iff (dn : DN) : splitDN (joinDN (splitDN dn.text)) = splitDN dn.text ↔
    ∀ r ∈ dn.dropLast, ¬ EndsInEscapedSpace r.last.value.tokens := by
  cases dn with
  | nil => exact iff_of_true rfl fun r hr => absurd hr List.not_mem_nil
  | cons r dn =>
    set parts := (r :: dn).map fun r => trimText r.text with hparts
    have hne : parts ≠ [] := by simp [hparts]
    have hscan : ∀ p ∈ parts, (scan '\\' ',' false p).isSome := by
      intro p hp
      obtain ⟨q, -, rfl⟩ := List.mem_map.1 hp
      rw [q.scan_trim]
      rfl
    have htrimmed : parts.map trimText = parts := by
      rw [hparts, List.map_map]
      exact List.map_congr_left fun q _ => trimText_trimText _
    have hends : (∀ p ∈ parts.dropLast, scan '\\' ',' false p = some false) ↔
        ∀ q ∈ (r :: dn).dropLast, ¬ EndsInEscapedSpace q.last.value.tokens := by
      rw [hparts, ← List.map_dropLast, List.forall_mem_map]
      refine forall₂_congr fun q _ => ?_
      rw [q.scan_trim, Option.some_inj, decide_eq_false_iff_not]
    rw [splitDN_text, ← hparts, splitDN_eq, if_neg joinDN_ne_nil, ← hends, joinDN]
    constructor
    · intro hsame
      have hlength := congrArg List.length hsame
      rw [List.length_map] at hlength
      exact (length_cut_join_eq_iff (by decide) hne hscan).1 hlength
    · intro h
      rw [cut_join (by decide) hne hscan h, htrimmed]

/-! ### Values that are given back -/

def hexValue (c : Char) : ℕ :=
  if c.isDigit then c.toNat - '0'.toNat else if 'a' ≤ c then c.toNat - 'a'.toNat + 10 else c.toNat - 'A'.toNat + 10

/-- The byte that two digits stand for. -/
def byteOf (d : Char × Char) : UInt8 := UInt8.ofNat (16 * hexValue d.1 + hexValue d.2)

/-- The ways to write a value: a character stands for itself, or is escaped, or is given by its bytes. -/
inductive Writes : List Token → List Char → Prop
  | nil : Writes [] []
  | plain {c : Char} {tokens : List Token} {v : List Char} : Writes tokens v → Writes (.plain c :: tokens) (c :: v)
  | pair {c : Char} {tokens : List Token} {v : List Char} : Writes tokens v → Writes (.pair c :: tokens) (c :: v)
  | bytes {c : Char} {tokens : List Token} {v : List Char} (digits : List (Char × Char)) :
      digits.map byteOf = String.utf8EncodeChar c → Writes tokens v →
      Writes (digits.map (fun d => .hex d.1 d.2) ++ tokens) (c :: v)

/-- What the loop of `rdnValue` makes of a token. -/
def Token.shown : Token → List Char
  | plain c => [c]
  | pair c => [c]
  | hex a b => [a, b]

def shownOf (tokens : List Token) : List Char := tokens.flatMap Token.shown

variable {tokens : List Token} {v : List Char}

lemma shownOf_append (tokens tokens' : List Token) : shownOf (tokens ++ tokens') = shownOf tokens ++ shownOf tokens' :=
  List.flatMap_append

lemma unescape_textOf (hok : ∀ t ∈ tokens, t.ok = true) : unescape false (textOf tokens) = shownOf tokens := by
  induction tokens with
  | nil => rfl
  | cons t tokens ih =>
    have hrest := ih fun u hu => hok u (List.mem_cons_of_mem t hu)
    have hread : ∀ {c : Char} {s : List Char}, c ≠ '\\' → unescape false (c :: s) = c :: unescape false s :=
      fun hc => if_pos (Or.inr hc)
    have ht := hok t List.mem_cons_self
    rw [textOf, List.flatMap_cons, ← textOf, shownOf, List.flatMap_cons, ← shownOf, ← hrest]
    cases t with
    | plain c => exact hread (of_decide_eq_true ht).2.1
    | pair c => rfl
    | hex a b =>
      have hb := (ne_of_isHexDigit (of_decide_eq_true ht).2).1
      exact congrArg (a :: ·) (hread hb)

/-- A character that is given by its bytes takes two digits at least. -/
lemma length_shown_bytes {c : Char} {digits : List (Char × Char)} (h : digits.map byteOf = String.utf8EncodeChar c) :
    2 ≤ (shownOf (digits.map fun d => .hex d.1 d.2)).length := by
  cases digits with
  | nil => exact absurd h.symm String.utf8EncodeChar_ne_nil
  | cons d digits =>
    rw [List.map_cons, shownOf, List.flatMap_cons, List.length_append]
    exact Nat.le_add_right 2 _

lemma Writes.length_le (h : Writes tokens v) : v.length ≤ (shownOf tokens).length := by
  induction h with
  | nil => exact le_rfl
  | plain _ ih => exact Nat.succ_le_succ ih
  | pair _ ih => exact Nat.succ_le_succ ih
  | bytes digits hbytes _ ih =>
    have := length_shown_bytes hbytes
    rw [shownOf_append, List.length_append, List.length_cons]
    omega

/-- The bytes of a value are longer written than shown. -/
lemma Writes.length_lt (h : Writes tokens v) (hhex : ∃ a b, Token.hex a b ∈ tokens) :
    v.length < (shownOf tokens).length := by
  obtain ⟨a, b, hhex⟩ := hhex
  induction h with
  | nil => cases hhex
  | plain _ ih =>
    rcases List.mem_cons.1 hhex with heq | hhex
    · cases heq
    · exact Nat.succ_lt_succ (ih hhex)
  | pair _ ih =>
    rcases List.mem_cons.1 hhex with heq | hhex
    · cases heq
    · exact Nat.succ_lt_succ (ih hhex)
  | bytes digits hbytes hrest _ =>
    have h1 := length_shown_bytes hbytes
    have h2 := hrest.length_le
    rw [shownOf_append, List.length_append, List.length_cons]
    omega

/-- Without bytes, the value is what is shown. -/
lemma Writes.shown_eq (h : Writes tokens v) (hhex : ∀ a b, Token.hex a b ∉ tokens) : shownOf tokens = v := by
  induction h with
  | nil => rfl
  | plain _ ih => exact congrArg (_ :: ·) (ih fun a b hm => hhex a b (List.mem_cons_of_mem _ hm))
  | pair _ ih => exact congrArg (_ :: ·) (ih fun a b hm => hhex a b (List.mem_cons_of_mem _ hm))
  | bytes digits hbytes _ _ =>
    cases digits with
    | nil => exact absurd hbytes.symm String.utf8EncodeChar_ne_nil
    | cons d digits => exact absurd List.mem_cons_self (hhex d.1 d.2)

/-- What is shown starts with white space only where the value does. -/
lemma Writes.head (h : Writes tokens v) (hok : ∀ t ∈ tokens, t.ok = true) {c : Char}
    (hc : (shownOf tokens).head? = some c) (hspace : Console.isSpaceChar c = true) : v.head? = some c := by
  cases h with
  | nil => cases hc
  | plain _ => exact hc
  | pair _ => exact hc
  | bytes digits hbytes _ =>
    obtain ⟨b, rest, hb⟩ := List.exists_cons_of_ne_nil (String.utf8EncodeChar_ne_nil (c := _))
    cases digits with
    | nil =>
      rw [List.map_nil, hb] at hbytes
      cases hbytes
    | cons d digits =>
      obtain rfl := Option.some.inj hc
      have hd := (of_decide_eq_true (hok _ List.mem_cons_self)).1
      rw [isSpaceChar_of_isHexDigit hd] at hspace
      cases hspace

/-- The last character of what is shown, where the first is shown as it is. -/
lemma Writes.last_cons {c d : Char} (h : Writes tokens v)
    (ih : (shownOf tokens).getLast? = some c → v.getLast? = some c) (hc : (d :: shownOf tokens).getLast? = some c) :
    (d :: v).getLast? = some c := by
  rw [List.getLast?_cons] at hc ⊢
  cases hshown : (shownOf tokens).getLast? with
  | some e =>
    rw [hshown] at hc
    rw [ih (hshown.trans hc)]
    rfl
  | none =>
    have hlength := h.length_le
    rw [List.getLast?_eq_none_iff.1 hshown] at hlength
    rw [hshown] at hc
    rw [List.eq_nil_of_length_eq_zero (Nat.le_zero.1 hlength)]
    exact hc

/-- It ends with white space only where the value does. -/
lemma Writes.last (h : Writes tokens v) (hok : ∀ t ∈ tokens, t.ok = true) {c : Char}
    (hc : (shownOf tokens).getLast? = some c) (hspace : Console.isSpaceChar c = true) : v.getLast? = some c := by
  induction h with
  | nil => cases hc
  | @plain d tokens v hrest ih =>
    exact last_cons hrest (ih fun t ht => hok t (List.mem_cons_of_mem _ ht)) hc
  | @pair d tokens v hrest ih =>
    exact last_cons hrest (ih fun t ht => hok t (List.mem_cons_of_mem _ ht)) hc
  | @bytes d tokens v digits hbytes hrest ih =>
    rw [shownOf_append, List.getLast?_append] at hc
    cases hshown : (shownOf tokens).getLast? with
    | some e =>
      rw [hshown, Option.some_or] at hc
      rw [List.getLast?_cons, ih (fun t ht => hok t (List.mem_append_right _ ht)) (hshown.trans hc)]
      rfl
    | none =>
      -- the last is a digit
      rw [hshown, Option.none_or] at hc
      obtain ⟨t, ht, hct⟩ := List.mem_flatMap.1 (List.mem_of_getLast? hc)
      obtain ⟨e, -, rfl⟩ := List.mem_map.1 ht
      obtain ⟨ha, hb⟩ := of_decide_eq_true (hok _ (List.mem_append_left _ ht))
      have hdigit : isHexDigit c = true := by
        rcases List.mem_cons.1 hct with rfl | hct
        · exact ha
        · obtain rfl := List.mem_singleton.1 hct
          exact hb
      rw [isSpaceChar_of_isHexDigit hdigit] at hspace
      cases hspace

lemma rdnValue_text (type : AttributeType) (s : ValueString) :
    rdnValue (type.chars ++ '=' :: textOf s.tokens) = trimText (shownOf s.tokens) := by
  have htype : ∀ c ∈ type.chars, decide (c ≠ '=') = true := by
    intro c hc
    refine decide_eq_true ?_
    rintro rfl
    rcases type.ok _ hc with h | h | h <;> cases h
  rw [rdnValue, List.dropWhile_append_of_pos htype, List.dropWhile_cons_of_neg (by decide), ← unescape_textOf s.ok]

/-- A value is given back exactly when it is not written in bytes, and has no white space at its ends. -/
lemma rdnValue_iff (type : AttributeType) (s : ValueString) (h : Writes s.tokens v) :
    rdnValue (type.chars ++ '=' :: textOf s.tokens) = v ↔ (∀ a b, Token.hex a b ∉ s.tokens) ∧
      (∀ c, v.head? = some c → Console.isSpaceChar c = false) ∧
      ∀ c, v.getLast? = some c → Console.isSpaceChar c = false := by
  rw [rdnValue_text]
  constructor
  · intro hvalue
    have hhead : ∀ c, v.head? = some c → Console.isSpaceChar c = false := by
      rw [← hvalue]
      exact fun c => trimBy_head
    have hlast : ∀ c, v.getLast? = some c → Console.isSpaceChar c = false := by
      rw [← hvalue]
      exact fun c => trimBy_last
    have hshown : trimText (shownOf s.tokens) = shownOf s.tokens := by
      refine trimText_eq_self (fun c hc => ?_) fun c hc => ?_
      · refine Bool.eq_false_iff.2 fun hspace => ?_
        rw [hhead c (h.head s.ok hc hspace)] at hspace
        cases hspace
      · refine Bool.eq_false_iff.2 fun hspace => ?_
        rw [hlast c (h.last s.ok hc hspace)] at hspace
        cases hspace
    refine ⟨fun a b hhex => ?_, hhead, hlast⟩
    have hlt := h.length_lt ⟨a, b, hhex⟩
    rw [← hshown, hvalue] at hlt
    exact lt_irrefl _ hlt
  · rintro ⟨hhex, hhead, hlast⟩
    rw [h.shown_eq hhex, trimText_eq_self hhead hlast]

/-- **Trimming undoes an escape.**  A distinguished name is split again as it was joined if and only if no RDN but the
last ends in an escaped space; and a value comes back from however it is written if and only if no character is given
by its bytes, and neither the first nor the last is white space. -/
theorem names_survive_iff (dn : DN) :
    (splitDN (joinDN (splitDN dn.text)) = splitDN dn.text ↔
      ∀ r ∈ dn.dropLast, ¬ EndsInEscapedSpace r.last.value.tokens) ∧
    ∀ (type : AttributeType) (s : ValueString) (v : List Char), Writes s.tokens v →
      (rdnValue (type.chars ++ '=' :: textOf s.tokens) = v ↔ (∀ a b, Token.hex a b ∉ s.tokens) ∧
        (∀ c, v.head? = some c → Console.isSpaceChar c = false) ∧
        ∀ c, v.getLast? = some c → Console.isSpaceChar c = false) :=
  ⟨splitDN_join_iff dn, fun type s _ => rdnValue_iff type s⟩

/-- `OU=A\ ,DC=c`. -/
def spaceAtEnd : DN :=
  [⟨[], ⟨⟨['O', 'U'], by decide, by simp⟩, .string ⟨[.plain 'A', .pair ' '], by decide, by decide, by decide⟩⟩⟩,
    ⟨[], ⟨⟨['D', 'C'], by decide, by simp⟩, .string ⟨[.plain 'c'], by decide, by decide, by decide⟩⟩⟩]

/-- Two RDNs are joined into one, and the value has lost its space; a value in bytes is not decoded. -/
theorem space_at_end_lost : splitDN spaceAtEnd.text = ["OU=A\\".toList, "DC=c".toList] ∧
    splitDN (joinDN (splitDN spaceAtEnd.text)) = ["OU=A\\,DC=c".toList] ∧
    Writes [.plain 'A', .pair ' '] "A ".toList ∧ rdnValue "OU=A\\ ".toList = "A".toList ∧
    Writes [.hex '4' '1'] "A".toList ∧ rdnValue "OU=\\41".toList = "41".toList := by
  refine ⟨by decide, by decide, Writes.plain (Writes.pair Writes.nil), by decide, ?_, by decide⟩
  exact Writes.bytes [('4', '1')] (by decide) Writes.nil

end Tiai.DistinguishedName
