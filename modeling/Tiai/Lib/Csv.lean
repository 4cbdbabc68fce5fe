import Mathlib

/-!
# Separated values

A text of records, one a line, whose fields are separated by a delimiter.  A field that holds the delimiter, a quote or
the end of a line is written between quotes, its own quotes doubled; a record of one empty field is written as one
empty quoted field, since an empty line is a record without fields.

* `Dialect` — the delimiter;
* `write` — the records as a text;
* `Reader`, `feed`, `read` — a reader, character by character;
* `read_write` — reading what was written gives the records back.
-/

namespace Tiai.Lib.Csv

/-- The delimiter of the fields; it is neither a quote nor a part of the end of a line. -/
structure Dialect where
  delimiter : Char
  ne_quote : delimiter ≠ '"'
  ne_return : delimiter ≠ '\r'
  ne_feed : delimiter ≠ '\n'

abbrev Field := List Char

abbrev Record := List Field

section Writing

variable (d : Dialect)

/-- The characters that put a field between quotes. -/
def special (c : Char) : Bool := c = d.delimiter || c = '"' || c = '\r' || c = '\n'

/-- The characters of a field between quotes. -/
def double (c : Char) : List Char := if c = '"' then ['"', '"'] else [c]

def quote (f : Field) : List Char := '"' :: (f.flatMap double ++ ['"'])

def writeField (f : Field) : List Char := if f.any (special d) then quote f else f

/-- Fields, each after a delimiter. -/
def writeRest (fs : List Field) : List Char := fs.flatMap fun f => d.delimiter :: writeField d f

def writeRecord : Record → List Char
  | [] => []
  | [f] => if f = [] then quote [] else writeField d f
  | f :: fs => writeField d f ++ writeRest d fs

def lineEnd : List Char := ['\r', '\n']

def write (rs : List Record) : List Char := rs.flatMap fun r => writeRecord d r ++ lineEnd

end Writing

/-! ### Reading -/

/-- Where a reader stands. -/
inductive Mode
  | startRecord
  | startField
  | inField
  | quoted
  | quoteInQuoted
  | endRecord
  | failed
  deriving DecidableEq

/-- The records read, the fields of this one, and the characters of this field. -/
structure Reader where
  mode : Mode
  field : Field
  record : Record
  records : List Record

def Reader.add (r : Reader) (c : Char) (mode : Mode) : Reader := { r with mode := mode, field := r.field ++ [c] }

def Reader.save (r : Reader) (mode : Mode) : Reader :=
  { r with mode := mode, field := [], record := r.record ++ [r.field] }

section Reading

variable (d : Dialect)

/-- A character outside of quotes. -/
def Reader.plain (r : Reader) (c : Char) : Reader :=
  if c = d.delimiter then r.save .startField
  else if c = '\r' then r.save .endRecord
  else if c = '\n' then { r with mode := .failed }
  else r.add c .inField

def feed (r : Reader) (c : Char) : Reader :=
  match r.mode with
  | .startRecord =>
    if c = '\r' then { r with mode := .endRecord }
    else if c = '"' then { r with mode := .quoted }
    else r.plain d c
  | .startField => if c = '"' then { r with mode := .quoted } else r.plain d c
  | .inField => r.plain d c
  | .quoted => if c = '"' then { r with mode := .quoteInQuoted } else r.add c .quoted
  | .quoteInQuoted => if c = '"' then r.add c .quoted else r.plain d c
  | .endRecord =>
    if c = '\n' then ⟨.startRecord, [], [], r.records ++ [r.record]⟩ else { r with mode := .failed }
  | .failed => r

/-- The records of a text, when it is one of whole lines. -/
def read (t : List Char) : Option (List Record) :=
  let r := t.foldl (feed d) ⟨.startRecord, [], [], []⟩
  if r.mode = .startRecord then some r.records else none

end Reading

/-! ### One field -/

variable {d : Dialect} {f g : Field} {fs rec : Record} {rs : List Record} {r : Reader} {c : Char} {m : Mode}

lemma special_false (h : special d c = false) : c ≠ d.delimiter ∧ c ≠ '"' ∧ c ≠ '\r' ∧ c ≠ '\n' := by
  simpa [special, not_or, and_assoc] using h

/-- Plain characters are added as they are. -/
lemma foldl_inField (h : f.any (special d) = false) :
    f.foldl (feed d) ⟨.inField, g, rec, rs⟩ = ⟨.inField, g ++ f, rec, rs⟩ := by
  induction f generalizing g with
  | nil => simp
  | cons c f ih =>
    obtain ⟨hc, hf⟩ := Bool.or_eq_false_iff.1 h
    obtain ⟨hdelim, -, hreturn, hfeed⟩ := special_false hc
    have hstep : feed d ⟨.inField, g, rec, rs⟩ c = ⟨.inField, g ++ [c], rec, rs⟩ := by
      simp [feed, Reader.plain, hdelim, hreturn, hfeed, Reader.add]
    rw [List.foldl_cons, hstep, ih hf]
    simp

/-- Between quotes, all are. -/
lemma foldl_quoted : (f.flatMap double).foldl (feed d) ⟨.quoted, g, rec, rs⟩ = ⟨.quoted, g ++ f, rec, rs⟩ := by
  induction f generalizing g with
  | nil => simp
  | cons c f ih =>
    have hstep : (double c).foldl (feed d) ⟨.quoted, g, rec, rs⟩ = ⟨.quoted, g ++ [c], rec, rs⟩ := by
      unfold double
      split_ifs with hc
      · subst hc
        rfl
      · simp [feed, hc, Reader.add]
    rw [List.flatMap_cons, List.foldl_append, hstep, ih]
    simp

/-- A field was read to its end: a delimiter saves it, and so does the end of the line. -/
structure AtEnd (d : Dialect) (r : Reader) (f : Field) (rec : Record) (rs : List Record) : Prop where
  delimiter : feed d r d.delimiter = ⟨.startField, [], rec ++ [f], rs⟩
  line : feed d r '\r' = ⟨.endRecord, [], rec ++ [f], rs⟩

lemma AtEnd.of_plain (hmode : ∀ c, c ≠ '"' → feed d r c = r.plain d c) (hr : r = ⟨m, f, rec, rs⟩) :
    AtEnd d r f rec rs where
  delimiter := by
    rw [hmode _ d.ne_quote, Reader.plain, if_pos rfl, hr]
    rfl
  line := by
    rw [hmode _ (by decide), Reader.plain, if_neg d.ne_return.symm, if_pos rfl, hr]
    rfl

/-- A quoted field is read to its end. -/
lemma atEnd_quote (hm : m = .startRecord ∨ m = .startField) :
    AtEnd d ((quote f).foldl (feed d) ⟨m, [], rec, rs⟩) f rec rs := by
  have hopen : feed d ⟨m, [], rec, rs⟩ '"' = ⟨.quoted, [], rec, rs⟩ := by
    rcases hm with rfl | rfl <;> rfl
  have hread : (quote f).foldl (feed d) ⟨m, [], rec, rs⟩ = ⟨.quoteInQuoted, f, rec, rs⟩ := by
    rw [quote, List.foldl_cons, hopen, List.foldl_append, foldl_quoted]
    rfl
  rw [hread]
  exact .of_plain (fun c hc => by simp [feed, hc]) rfl

/-- And so is any other that is written, unless it is empty at the start of a record. -/
lemma atEnd_writeField (hm : m = .startRecord ∧ f ≠ [] ∨ m = .startField) :
    AtEnd d ((writeField d f).foldl (feed d) ⟨m, [], rec, rs⟩) f rec rs := by
  unfold writeField
  split_ifs with hspecial
  · exact atEnd_quote (hm.imp And.left id)
  · cases f with
    | nil =>
      rcases hm with ⟨-, hne⟩ | rfl
      · exact absurd rfl hne
      · exact .of_plain (fun c hc => by simp [feed, hc]) rfl
    | cons c f =>
      rw [Bool.not_eq_true] at hspecial
      obtain ⟨hc, hf⟩ := Bool.or_eq_false_iff.1 hspecial
      obtain ⟨hdelim, hquote, hreturn, hfeed⟩ := special_false hc
      have hstep : feed d ⟨m, [], rec, rs⟩ c = ⟨.inField, [c], rec, rs⟩ := by
        rcases hm with ⟨rfl, -⟩ | rfl <;> simp [feed, Reader.plain, hdelim, hquote, hreturn, hfeed, Reader.add]
      rw [List.foldl_cons, hstep, foldl_inField hf]
      exact .of_plain (fun c _ => rfl) rfl

/-- The first field of several may be empty. -/
lemma delimiter_writeField : feed d ((writeField d f).foldl (feed d) ⟨.startRecord, [], [], rs⟩) d.delimiter =
    ⟨.startField, [], [f], rs⟩ := by
  cases f with
  | nil =>
    change feed d ⟨.startRecord, [], [], rs⟩ d.delimiter = _
    simp [feed, d.ne_quote, d.ne_return, Reader.plain, Reader.save]
  | cons c f => exact (atEnd_writeField (.inl ⟨rfl, List.cons_ne_nil c f⟩)).delimiter

/-! ### Records -/

/-- What is read at the end of a line. -/
def Closed (d : Dialect) (r : Reader) (rec : Record) (rs : List Record) : Prop :=
  feed d r '\r' = ⟨.endRecord, [], rec, rs⟩

/-- The fields that follow a first one. -/
lemma closed_rest (hend : AtEnd d r f rec rs) : Closed d ((writeRest d fs).foldl (feed d) r) (rec ++ f :: fs) rs := by
  induction fs generalizing r f rec with
  | nil => exact hend.line
  | cons g fs ih =>
    rw [writeRest, List.flatMap_cons, List.foldl_append, List.foldl_cons, hend.delimiter]
    have hnext : AtEnd d ((writeField d g).foldl (feed d) ⟨.startField, [], rec ++ [f], rs⟩) g (rec ++ [f]) rs :=
      atEnd_writeField (.inr rfl)
    have hclosed := ih hnext
    rwa [List.append_assoc, List.singleton_append] at hclosed

lemma closed_writeRecord : Closed d ((writeRecord d rec).foldl (feed d) ⟨.startRecord, [], [], rs⟩) rec rs := by
  rcases rec with _ | ⟨f, _ | ⟨g, fs⟩⟩
  · rfl
  · change Closed d ((if f = [] then quote [] else writeField d f).foldl (feed d) _) _ rs
    split_ifs with hempty
    · subst hempty
      exact (atEnd_quote (.inl rfl)).line
    · exact (atEnd_writeField (.inl ⟨rfl, hempty⟩)).line
  · have hrecord : writeRecord d (f :: g :: fs) =
        writeField d f ++ d.delimiter :: (writeField d g ++ writeRest d fs) := rfl
    rw [hrecord, List.foldl_append, List.foldl_cons, delimiter_writeField, List.foldl_append]
    exact closed_rest (atEnd_writeField (.inr rfl))

lemma foldl_line : (writeRecord d rec ++ lineEnd).foldl (feed d) ⟨.startRecord, [], [], rs⟩ =
    ⟨.startRecord, [], [], rs ++ [rec]⟩ := by
  rw [List.foldl_append, lineEnd, List.foldl_cons, closed_writeRecord]
  rfl

lemma foldl_write {written : List Record} : (write d written).foldl (feed d) ⟨.startRecord, [], [], rs⟩ =
    ⟨.startRecord, [], [], rs ++ written⟩ := by
  induction written generalizing rs with
  | nil => simp [write]
  | cons rec written ih =>
    have hsplit : write d (rec :: written) = (writeRecord d rec ++ lineEnd) ++ write d written := rfl
    rw [hsplit, List.foldl_append, foldl_line, ih, List.append_assoc, List.singleton_append]

/-- **Round trip.**  What was written is read back. -/
theorem read_write (rs : List Record) : read d (write d rs) = some rs := by
  unfold read
  rw [foldl_write]
  rfl

end Tiai.Lib.Csv
