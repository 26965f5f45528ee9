import EntityGen.Filter.Matcher
import EntityGen.Value.Text

/-! Rules that keep and drop names. -/

namespace EntityGen

structure Rule where
  matcher : Matcher
  exclude : Bool
  deriving DecidableEq

namespace Rule

def accepts (r : Rule) (name : String) : Bool := r.matcher.accepts name

/-- A rule that keeps what it matches. -/
def includes (r : Rule) (name : String) : Bool := !r.exclude && r.accepts name

/-- A rule that drops what it matches. -/
def excludes (r : Rule) (name : String) : Bool := r.exclude && r.accepts name

def lowerText (s : String) : String := String.ofList (Text.toLower s.toList)

/-- The rule that a mapping with a pattern states; a kind and a flag stand there if need be. -/
def ofEntries (entries : List (Value × Value)) : Except Failure Rule :=
  match (Value.lookup entries "pattern").text? with
  | none | some "" => .error (.ofField "filters" .rulePattern)
  | some pattern => do
    let kind := lowerText (← ((Value.lookup? entries "kind").getD (.text "glob")).toText)
    match Matcher.ofKind? kind pattern with
    | some m => m.map (⟨·, (Value.lookup entries "exclude").truthy⟩)
    | none => .error (.ofField "filters" (.ruleKind kind))

/-- A text is a glob that keeps; anything else is a mapping. -/
def ofValue (v : Value) : Except Failure Rule :=
  match v.text?, v.entries? with
  | some pattern, _ => .ok ⟨.glob pattern, false⟩
  | none, some entries => ofEntries entries
  | none, none => .error (.ofField "filters" .ruleShape)

end Rule

/-- A name is kept if a rule includes it, and also if no rule excludes it. -/
def keeps (rules : List Rule) (name : String) : Bool :=
  rules.any (·.includes name) || !rules.any (·.excludes name)

/-- The items with a name that is kept. -/
def filterBy {α : Type} (rules : List Rule) (name : α → String) (items : List α) : List α :=
  items.filter fun item => keeps rules (name item)

theorem keeps_iff {rules : List Rule} {name : String} :
    keeps rules name = true ↔
      (∃ r ∈ rules, r.includes name = true) ∨ ∀ r ∈ rules, r.excludes name = false := by
  simp [keeps]

@[simp] theorem keeps_nil (name : String) : keeps [] name = true := rfl

end EntityGen
