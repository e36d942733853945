import CanvasLint.Command.Run
import CanvasLint.Proofs.Outcome

/-! Command lines that differ in the value of one switch. Whatever words follow the value, they are
read in the same way: a line never looks into the values that it notes. -/
namespace CanvasLint.Command

variable {line line' : Line} {uses uses' : Uses} {name value value' : String} {s : Switch}

/-- Two attempts fail alike, or come to results that are related. -/
inductive Agree {α : Type} (R : α → α → Prop) : Except Misuse α → Except Misuse α → Prop
  | ok {a b : α} (related : R a b) : Agree R (.ok a) (.ok b)
  | error (misuse : Misuse) : Agree R (.error misuse) (.error misuse)

theorem Agree.refl {α : Type} (x : Except Misuse α) : Agree Eq x x := by
  cases x with
  | ok a => exact .ok rfl
  | error misuse => exact .error misuse

theorem Agree.bind {α β : Type} {R : α → α → Prop} {S : β → β → Prop} {x y : Except Misuse α}
    {f g : α → Except Misuse β} (agree : Agree R x y)
    (next : ∀ a b, R a b → Agree S (f a) (g b)) : Agree S (x >>= f) (y >>= g) := by
  cases agree with
  | ok related => exact next _ _ related
  | error misuse => exact .error misuse

/-- The switch has one value here and another there; all others have the same values. -/
structure Uses.AlikeBut (name value value' : String) (uses uses' : Uses) : Prop where
  others : ∀ other, other ≠ name → uses.lookup other = uses'.lookup other
  value : uses.lookup name = some value
  value' : uses'.lookup name = some value'

namespace Uses.AlikeBut

variable (alike : Uses.AlikeBut name value value' uses uses')

include alike

theorem isSome_lookup (other : String) :
    (uses.lookup other).isSome = (uses'.lookup other).isSome := by
  by_cases same : other = name
  · rw [same, alike.value, alike.value']
    rfl
  · rw [alike.others other same]

theorem append (more : Uses) : Uses.AlikeBut name value value' (uses ++ more) (uses' ++ more) where
  others other different := by simp [List.lookup_append, alike.others other different]
  value := by simp [List.lookup_append, alike.value]
  value' := by simp [List.lookup_append, alike.value']

theorem value?_eq {α : Type} {other : String} (different : other ≠ name)
    (read : String → Option α) : Uses.value? uses other read = Uses.value? uses' other read := by
  rw [Uses.value?, Uses.value?, alike.others other different]

omit alike in
theorem concat (absent : uses.lookup name = none) (value value' : String) :
    Uses.AlikeBut name value value' (uses ++ [(name, value)]) (uses ++ [(name, value')]) where
  others other different := by
    have apart : (other == name) = false := by simpa using different
    simp [List.lookup_append, List.lookup_cons, apart]
  value := by simp [List.lookup_append, absent]
  value' := by simp [List.lookup_append, absent]

end Uses.AlikeBut

/-- The requests are the same but for the style of a report. -/
inductive Request.Restyled : Request → Request → Prop
  | same (q : Request) : Restyled q q
  | check (r : CheckRequest) (style : Report.Style) :
      Restyled (.check r) (.check { r with style })

structure Invocation.Restyled (i i' : Invocation) : Prop where
  request : Request.Restyled i.request i'.request
  config : i'.config = i.config
  verbose : i'.verbose = i.verbose

namespace Line

/-- The lines are the same but for the value of a switch after the verb. -/
inductive AlikeBut (name value value' : String) : Line → Line → Prop
  | mk {line : Line} {uses : Uses} (alike : Uses.AlikeBut name value value' line.after uses) :
      AlikeBut name value value' line { line with after := uses }

namespace AlikeBut

/-- The value of a switch is noted as it is, and not looked at. -/
theorem of_use {verb : Verb} (known : line.verb = some verb) (value value' : String) :
    Agree (AlikeBut s.name value value') (line.use s value) (line.use s value') := by
  obtain ⟨verb', before, after, operands, waiting, literal⟩ := line
  cases known
  unfold Line.use
  split
  · exact .error _
  · rename_i unused
    have absent : after.lookup s.name = none := Option.not_isSome_iff_eq_none.mp unused
    exact .ok (.mk (.concat absent value value'))

/-! ### What one word does -/

theorem use (alike : AlikeBut name value value' line line') (s : Switch) (given : String) :
    Agree (AlikeBut name value value') (line.use s given) (line'.use s given) := by
  obtain ⟨alike⟩ := alike
  unfold Line.use Line.uses
  cases known : line.verb with
  | none =>
    dsimp only
    split
    · exact .error _
    · exact .ok (.mk alike)
  | some verb =>
    dsimp only
    rw [alike.isSome_lookup s.name]
    split
    · exact .error _
    · exact .ok (.mk (alike.append _))

theorem readName (alike : AlikeBut name value value' line line') (word : List Char) :
    Agree (AlikeBut name value value') (line.readName word) (line'.readName word) := by
  unfold Line.readName
  obtain ⟨same⟩ := alike
  dsimp only
  split
  · exact .error _
  · split
    · exact AlikeBut.use (.mk same) _ _
    · exact .error _
  · split
    · exact .ok (.mk same)
    · exact AlikeBut.use (.mk same) _ _

theorem readLetters (alike : AlikeBut name value value' line line') (word : List Char) :
    Agree (AlikeBut name value value') (line.readLetters word) (line'.readLetters word) := by
  induction word generalizing line line' with
  | nil => exact .ok alike
  | cons c rest ih =>
    unfold Line.readLetters
    obtain ⟨same⟩ := alike
    dsimp only
    split
    · exact .error _
    · split
      · split
        · exact .ok (.mk same)
        · exact AlikeBut.use (.mk same) _ _
        · exact AlikeBut.use (.mk same) _ _
      · exact (AlikeBut.use (.mk same) _ _).bind fun _ _ alike => ih alike

theorem readOperand (alike : AlikeBut name value value' line line') (word : String) :
    Agree (AlikeBut name value value') (line.readOperand word) (line'.readOperand word) := by
  unfold Line.readOperand
  obtain ⟨same⟩ := alike
  dsimp only
  split
  · exact .ok (.mk same)
  · split
    · split
      · exact .error _
      · exact .ok (.mk same)
    · exact .error _

theorem readWord (alike : AlikeBut name value value' line line') (word : String) :
    Agree (AlikeBut name value value') (line.readWord word) (line'.readWord word) := by
  unfold Line.readWord
  obtain ⟨same⟩ := alike
  dsimp only
  split
  · split
    · exact .error _
    · exact AlikeBut.use (.mk same) _ _
  · split
    · exact AlikeBut.readOperand (.mk same) word
    · split
      · exact .ok (.mk same)
      · exact AlikeBut.readName (.mk same) _
      · exact AlikeBut.readLetters (.mk same) _
      · exact AlikeBut.readOperand (.mk same) word

/-- Lines that are alike stay so over any number of words. -/
theorem foldlM_readWord (alike : AlikeBut name value value' line line') (words : List String) :
    Agree (AlikeBut name value value') (words.foldlM Line.readWord line)
      (words.foldlM Line.readWord line') := by
  induction words generalizing line line' with
  | nil => exact .ok alike
  | cons word words ih =>
    rw [List.foldlM_cons, List.foldlM_cons]
    exact (alike.readWord word).bind fun _ _ alike => ih alike

/-! ### What a line asks for -/

variable {style style' : Report.Style}

theorem value?_format {uses : Uses} (given : uses.lookup "format" = some style.name) :
    Uses.value? uses "format" Report.Style.ofName? = .ok (some style) := by
  rw [Uses.value?, given]
  cases style <;> rfl

theorem checkRequest (alike : AlikeBut "format" style.name style'.name line line') :
    Agree (fun r r' => r' = { r with style := style' }) line.checkRequest line'.checkRequest := by
  obtain ⟨alike⟩ := alike
  unfold Line.checkRequest
  dsimp only
  rw [value?_format alike.value, value?_format alike.value',
    ← alike.value?_eq (by decide) path?, ← alike.value?_eq (by decide) some,
    ← alike.value?_eq (by decide) some]
  refine Agree.bind (.refl _) ?_
  rintro rules _ rfl
  refine Agree.bind (.refl _) ?_
  rintro preset _ rfl
  refine Agree.bind (.refl _) ?_
  rintro only _ rfl
  refine Agree.bind (R := fun given given' => given = some style ∧ given' = some style')
    (.ok ⟨rfl, rfl⟩) ?_
  rintro _ _ ⟨rfl, rfl⟩
  split
  · exact .error _
  · refine Agree.bind (.refl _) ?_
    rintro operands _ rfl
    split
    · split
      · exact .ok rfl
      · exact .error _
    · exact .error _

theorem contrastRequest (alike : AlikeBut "format" style.name style'.name line line') :
    line'.contrastRequest = line.contrastRequest := by
  obtain ⟨alike⟩ := alike
  unfold Line.contrastRequest
  dsimp only
  rw [← alike.value?_eq (by decide) Number.ofText?, ← alike.value?_eq (by decide) Number.ofText?]
  rfl

theorem request (alike : AlikeBut "format" style.name style'.name line line') :
    Agree Request.Restyled line.request line'.request := by
  have checked := alike.checkRequest
  have contrasted := alike.contrastRequest
  obtain ⟨alike⟩ := alike
  unfold Line.request Uses.contains
  dsimp only
  rw [← alike.isSome_lookup "help", ← alike.isSome_lookup "force"]
  split
  · exact .ok (.same _)
  split
  · exact .ok (.same _)
  split
  · exact .error _
  · exact .ok (.same _)
  · refine Agree.bind checked ?_
    rintro r _ rfl
    exact .ok (.check r style')
  · rw [contrasted]
    refine Agree.bind (.refl _) ?_
    rintro r _ rfl
    exact .ok (.same _)
  · refine Agree.bind (.refl _) ?_
    rintro operands _ rfl
    exact .ok (.same _)
  · refine Agree.bind (.refl _) ?_
    rintro operands _ rfl
    exact .ok (.same _)

theorem invocation (alike : AlikeBut "format" style.name style'.name line line') :
    Agree Invocation.Restyled line.invocation line'.invocation := by
  have requested := alike.request
  obtain ⟨alike⟩ := alike
  unfold Line.invocation Line.config Uses.contains
  dsimp only
  rw [← alike.isSome_lookup "verbose", ← alike.value?_eq (by decide) path?]
  refine Agree.bind requested ?_
  intro q q' restyled
  refine Agree.bind (.refl _) ?_
  rintro config _ rfl
  exact .ok ⟨restyled, rfl, rfl⟩

end AlikeBut

end Line

/-- The words are the same but for one that gives the style of a report. It does not matter how the
style is given: the words before are read as they are, and the word in question notes the value for
the switch. -/
inductive SameButStyle : List String → List String → Prop
  | mk {front back : List String} {word word' : String} {start middle : Line} {s : Switch}
      {style style' : Report.Style} (read : front.foldlM Line.readWord {} = .ok start)
      (given : start.readWord word = middle.use s style.name)
      (given' : start.readWord word' = middle.use s style'.name) (format : s.name = "format")
      (verb : middle.verb = some .check) : SameButStyle (front ++ word :: back) (front ++ word' :: back)

/-- Command lines that are the same but for the style are misused alike or ask for the same but in
another style. -/
theorem Invocation.ofWords_restyled {words words' : List String} (same : SameButStyle words words') :
    Agree Restyled (ofWords words) (ofWords words') := by
  obtain @⟨front, back, word, word', start, middle, s, style, style', read, given, given', format,
    verb⟩ := same
  have noted := Line.AlikeBut.of_use (s := s) verb style.name style'.name
  rw [← given, ← given', format] at noted
  have lines : Agree (Line.AlikeBut "format" style.name style'.name)
      (Line.ofWords (front ++ word :: back)) (Line.ofWords (front ++ word' :: back)) := by
    unfold Line.ofWords
    rw [List.foldlM_append, List.foldlM_append, read]
    refine Agree.bind (noted.bind fun _ _ alike => alike.foldlM_readWord back) ?_
    rintro line _ ⟨alike⟩
    dsimp only
    split
    · exact .error _
    · exact .ok (.mk alike)
  exact lines.bind fun _ _ alike => alike.invocation

end CanvasLint.Command
