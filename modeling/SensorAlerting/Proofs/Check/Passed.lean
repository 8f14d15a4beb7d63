import SensorAlerting.Check.Fields

set_option autoImplicit false

namespace SensorAlerting.Checked

variable {Item Other : Type}

theorem good_of_map {function : Item -> Other} {checked : Checked Item} {result : Other}
    (passed : function <$> checked = .good result) :
    ∃ item, checked = .good item ∧ function item = result := by
  cases checked with
  | good item => exact ⟨item, rfl, by simpa [Functor.map] using passed⟩
  | bad faults => simp [Functor.map] at passed

theorem good_of_seq {function : Checked (Item -> Other)} {argument : Checked Item}
    {result : Other} (passed : function <*> argument = .good result) :
    ∃ apply item, function = .good apply ∧ argument = .good item ∧ apply item = result := by
  cases function with
  | bad faults => simp [Seq.seq, Checked.apply] at passed
  | good apply =>
    cases argument with
    | bad faults => simp [Seq.seq, Checked.apply] at passed
    | good item => exact ⟨apply, item, rfl, rfl, by simpa [Seq.seq, Checked.apply] using passed⟩

theorem good_of_also {checked : Checked Item} {more : List Check.Fault} {item : Item}
    (passed : checked.also more = .good item) : checked = .good item ∧ more = [] := by
  cases checked with
  | bad faults => simp [also] at passed
  | good found => cases more <;> simp_all [also]

theorem good_of_inside {checked : Checked Item} {name : String} {item : Item}
    (passed : checked.inside name = .good item) : checked = .good item := by
  cases checked <;> simp_all [inside]

theorem good_of_ensure {checked : Checked Item} {holds : Item -> Bool} {problem : Check.Problem}
    {item : Item} (passed : checked.ensure holds problem = .good item) :
    checked = .good item ∧ holds item = true := by
  cases checked with
  | bad faults => simp [ensure] at passed
  | good found =>
    simp only [ensure] at passed
    split at passed
    next kept => exact ⟨passed, by simp_all⟩
    next => simp [fail] at passed

theorem good_of_defaulted {fields : Entries String Value} {name : String} {fallback item : Item}
    {check : Value -> Checked Item}
    (passed : Check.defaulted fields name fallback check = .good item) :
    item = fallback ∨ ∃ value, check value = .good item := by
  simp only [Check.defaulted] at passed
  split at passed
  next value _ => exact .inr ⟨value, good_of_inside passed⟩
  next => exact .inl (by simpa using passed.symm)

theorem holds_of_defaulted {fields : Entries String Value} {name : String} {fallback item : Item}
    {check : Value -> Checked Item} {Holds : Item -> Prop} (usual : Holds fallback)
    (ensured : ∀ value found, check value = .good found -> Holds found)
    (passed : Check.defaulted fields name fallback check = .good item) : Holds item := by
  cases good_of_defaulted passed with
  | inl left => rwa [left]
  | inr given =>
    obtain ⟨value, passed⟩ := given
    exact ensured value item passed

theorem good_of_sectionOf {name : String} {known : List String}
    {check : Entries String Value -> Checked Item} {value : Value} {item : Item}
    (passed : Check.sectionOf name known check value = .good item) :
    ∃ fields, check fields = .good item := by
  unfold Check.sectionOf at passed
  split at passed
  next entries _ => exact ⟨_, (good_of_also passed).1⟩
  next => cases passed

end SensorAlerting.Checked
