import SensorAlerting.Text.Blank
import SensorAlerting.Text.Digit
import SensorAlerting.Text.Split

set_option autoImplicit false

namespace SensorAlerting.Text

@[ext]
structure Run (kind : Char -> Bool) where
  letters : List Char
  only : ∀ letter ∈ letters, kind letter = true

def Run.none (kind : Char -> Bool) : Run kind where
  letters := []
  only _ member := by cases member

/-- A text that no run of a kind reaches into. -/
def Stops (kind : Char -> Bool) (rest : List Char) : Prop :=
  ∀ letter ∈ rest.head?, kind letter = false

section Runs

variable {kind : Char -> Bool} {rest : List Char}

theorem stops_nil : Stops kind [] := by simp [Stops]

theorem stops_cons {letter : Char} : Stops kind (letter :: rest) ↔ kind letter = false := by
  simp [Stops]

theorem stops_dropWhile (kind : Char -> Bool) (letters : List Char) :
    Stops kind (letters.dropWhile kind) := by
  intro letter first
  have ends := List.head?_dropWhile_not kind letters
  rw [Option.mem_def.mp first] at ends
  simpa using ends

def Run.leading (kind : Char -> Bool) (letters : List Char) : Run kind where
  letters := letters.takeWhile kind
  only _ member := List.all_eq_true.mp List.all_takeWhile _ member

theorem Run.takeWhile_append (run : Run kind) (stops : Stops kind rest) :
    (run.letters ++ rest).takeWhile kind = run.letters := by
  rw [List.takeWhile_append_of_pos run.only]
  cases rest with
  | nil => simp
  | cons letter rest => simp [stops_cons.mp stops]

theorem Run.dropWhile_append (run : Run kind) (stops : Stops kind rest) :
    (run.letters ++ rest).dropWhile kind = rest := by
  rw [List.dropWhile_append_of_pos run.only]
  cases rest with
  | nil => rfl
  | cons letter rest => simp [stops_cons.mp stops]

theorem exists_run (kind : Char -> Bool) (letters : List Char) :
    ∃ (run : Run kind) (rest : List Char), letters = run.letters ++ rest ∧ Stops kind rest :=
  ⟨.leading kind letters, letters.dropWhile kind, List.takeWhile_append_dropWhile.symm,
    stops_dropWhile kind letters⟩

@[simp]
theorem Run.takeWhile_letters (run : Run kind) : run.letters.takeWhile kind = run.letters := by
  simpa using run.takeWhile_append stops_nil

@[simp]
theorem Run.dropWhile_letters (run : Run kind) : run.letters.dropWhile kind = [] := by
  simpa using run.dropWhile_append stops_nil

theorem Run.append_inj {run other : Run kind} {after : List Char} (stops : Stops kind rest)
    (stopsToo : Stops kind after) (same : run.letters ++ rest = other.letters ++ after) :
    run = other ∧ rest = after := by
  constructor
  next =>
    ext1
    rw [<- run.takeWhile_append stops, same, other.takeWhile_append stopsToo]
  next => rw [<- run.dropWhile_append stops, same, other.dropWhile_append stopsToo]

theorem trimBy_append (before after : Run kind) {middle : List Char}
    (plain : ∀ letter ∈ middle, kind letter = false) :
    trimBy kind (before.letters ++ (middle ++ after.letters)) = middle := by
  have backward : ∀ letter ∈ after.letters.reverse, kind letter = true := by
    intro letter member
    exact after.only letter (List.mem_reverse.mp member)
  cases middle with
  | nil =>
    rw [trimBy, List.nil_append, List.dropWhile_append_of_pos before.only, after.dropWhile_letters]
    rfl
  | cons letter more =>
    have starts : Stops kind (letter :: more ++ after.letters) := stops_cons.mpr (plain _ (by simp))
    have ends : Stops kind (letter :: more).reverse := by
      intro last first
      exact plain last (List.mem_reverse.mp (List.mem_of_mem_head? first))
    have kept : (letter :: more).reverse.dropWhile kind = (letter :: more).reverse :=
      (Run.none kind).dropWhile_append ends
    rw [trimBy, before.dropWhile_append starts, List.reverse_append,
      List.dropWhile_append_of_pos backward, kept, List.reverse_reverse]

theorem exists_trimBy (kind : Char -> Bool) (letters : List Char) :
    ∃ before after : Run kind,
      letters = before.letters ++ (trimBy kind letters ++ after.letters) := by
  let tail := letters.dropWhile kind
  refine ⟨.leading kind letters, ⟨(tail.reverse.takeWhile kind).reverse, ?_⟩, ?_⟩
  next =>
    intro letter member
    exact List.all_eq_true.mp List.all_takeWhile _ (List.mem_reverse.mp member)
  next =>
    have split := List.takeWhile_append_dropWhile (p := kind) (l := tail.reverse)
    have kept : trimBy kind letters ++ (tail.reverse.takeWhile kind).reverse = tail := by
      rw [trimBy, <- List.reverse_append, split, List.reverse_reverse]
    rw [kept]
    exact List.takeWhile_append_dropWhile.symm

end Runs

section Split

variable {separator : Char} (run : Run fun letter => letter != separator)

theorem splitRuns_letters :
    splitRuns separator run.letters = [run.letters] := by
  obtain ⟨letters, only⟩ := run
  induction letters with
  | nil => rfl
  | cons letter rest ih =>
    obtain ⟨noSeparator, onlyRest⟩ := List.forall_mem_cons.mp only
    have apart : (letter == separator) = false := by simpa using noSeparator
    simp only at ih
    simp [splitRuns, ih onlyRest, apart]

theorem splitRuns_append (rest : List Char) :
    splitRuns separator (run.letters ++ separator :: rest) =
      run.letters :: splitRuns separator rest := by
  obtain ⟨letters, only⟩ := run
  have filled : splitRuns separator rest ≠ [] := by
    cases rest with
    | nil => simp [splitRuns]
    | cons letter rest =>
      unfold splitRuns
      split
      next => simp
      next => split <;> simp
  induction letters with
  | nil =>
    cases more : splitRuns separator rest with
    | nil => exact absurd more filled
    | cons first others => simp [splitRuns, more]
  | cons letter rest ih =>
    obtain ⟨noSeparator, onlyRest⟩ := List.forall_mem_cons.mp only
    have apart : (letter == separator) = false := by simpa using noSeparator
    simp only at ih
    simp [splitRuns, ih onlyRest, apart]

end Split

/-- Two kinds of letters that have none in common. -/
def Apart (kind other : Char -> Bool) : Prop :=
  ∀ letter, kind letter = true -> other letter = false

theorem Apart.symm {kind other : Char -> Bool} (apart : Apart kind other) : Apart other kind := by
  intro letter isOther
  rw [<- Bool.not_eq_true]
  intro isKind
  rw [apart letter isKind] at isOther
  cases isOther

theorem Run.stops_append {kind other : Char -> Bool} (run : Run kind) (apart : Apart kind other)
    {rest : List Char} (stops : Stops other rest) : Stops other (run.letters ++ rest) := by
  obtain ⟨letters, only⟩ := run
  cases letters with
  | nil => exact stops
  | cons letter more => exact stops_cons.mpr (apart letter (only letter (by simp)))

theorem Run.stops_filled {kind other : Char -> Bool} (run : Run kind) (apart : Apart kind other)
    (filled : run.letters ≠ []) (rest : List Char) : Stops other (run.letters ++ rest) := by
  obtain ⟨letters, only⟩ := run
  cases letters with
  | nil => exact absurd rfl filled
  | cons letter more => exact stops_cons.mpr (apart letter (only letter (by simp)))

def separate (ranges others : List (Nat × Nat)) : Bool :=
  ranges.all fun range => others.all fun other =>
    decide (range.2 < other.1) || decide (other.2 < range.1)

theorem covers_separate {ranges others : List (Nat × Nat)} (apart : separate ranges others = true)
    {code : Nat} (covered : covers ranges code = true) : covers others code = false := by
  simp only [covers, List.any_eq_true, Bool.and_eq_true, decide_eq_true_eq] at covered
  obtain ⟨range, member, above, below⟩ := covered
  simp only [separate, List.all_eq_true, Bool.or_eq_true, decide_eq_true_eq] at apart
  simp only [covers, List.any_eq_false, Bool.and_eq_true, decide_eq_true_eq]
  rintro other present ⟨otherAbove, otherBelow⟩
  have := apart range member other present
  omega

theorem blank_codes {letter : Char} (blank : isBlank letter = true) :
    letter.toNat <= 0x20 ∨ 0x85 <= letter.toNat := by
  simp [isBlank, covers, blankRanges] at blank
  omega

theorem isAsciiDigit_iff {letter : Char} :
    isAsciiDigit letter = true ↔ 0x30 <= letter.toNat ∧ letter.toNat <= 0x39 := by
  simp [isAsciiDigit, Char.le_def, UInt32.le_iff_toNat_le]

theorem isAsciiLetter_iff {letter : Char} :
    isAsciiLetter letter = true ↔ 0x61 <= letter.toNat ∧ letter.toNat <= 0x7A ∨
      0x41 <= letter.toNat ∧ letter.toNat <= 0x5A := by
  simp [isAsciiLetter, Char.le_def, UInt32.le_iff_toNat_le]

theorem blank_apart_word : Apart isBlank isWord := by
  intro letter blank
  have codes := blank_codes blank
  unfold isWord
  split
  next =>
    have noUnderscore : letter ≠ '_' := by
      rintro rfl
      revert codes
      decide
    have noLetter : ¬ isAsciiLetter letter = true := by
      rw [isAsciiLetter_iff]
      omega
    have noDigit : ¬ isAsciiDigit letter = true := by
      rw [isAsciiDigit_iff]
      omega
    simp_all
  next => exact covers_separate (by decide +kernel) blank

def digitRanges : List (Nat × Nat) := digitZeros.map fun origin => (origin, origin + 9)

theorem isDigit_codes {letter : Char} (digit : isDigit letter = true) :
    0x30 <= letter.toNat ∧ letter.toNat <= 0x39 ∨ covers digitRanges letter.toNat = true := by
  unfold isDigit digitValue? at digit
  dsimp only at digit
  split at digit
  next =>
    split at digit
    next plain => exact .inl (isAsciiDigit_iff.mp plain)
    next => cases digit
  next =>
    simp only [Option.isSome_map, List.find?_isSome, Bool.and_eq_true, decide_eq_true_eq] at digit
    obtain ⟨origin, member, above, below⟩ := digit
    refine .inr ?_
    simp only [covers, digitRanges, List.any_map, List.any_eq_true, Function.comp_apply,
      Bool.and_eq_true, decide_eq_true_eq]
    exact ⟨origin, member, above, by omega⟩

theorem digit_apart_blank : Apart isDigit isBlank := by
  intro letter digit
  rcases isDigit_codes digit with plain | covered
  next =>
    rw [<- Bool.not_eq_true]
    intro blank
    have codes := blank_codes blank
    omega
  next => exact covers_separate (by decide +kernel) covered

end SensorAlerting.Text
