import EntityGen.Pattern.Program

/-! Which texts a regular expression matches. Steps are tried in a fixed order. What they have noted is
taken back where another way is tried, but not everywhere, and the answer depends on that. -/

namespace EntityGen.Pattern

/-- What the steps know besides the place where they stand. -/
structure Memory where
  /-- The last place where a step was started or came to its end. -/
  place : Nat := 0
  /-- The places noted so far. -/
  marks : Array (Option Nat)
  /-- How many of the marks count. -/
  live : Nat := 0

namespace Memory

def moved (m : Memory) (place : Nat) : Memory := { m with place }

/-- Notes a place. Marks that are passed over are empty. -/
def note (m : Memory) (index place : Nat) : Memory :=
  let marks :=
    if m.live ≤ index then
      (List.range (index - m.live)).foldl (fun ms i => ms.setIfInBounds (m.live + i) none) m.marks
    else m.marks
  { m with marks := marks.setIfInBounds index (some place), live := max m.live (index + 1) }

/-- The start and the end of what a group has matched. -/
def span? (m : Memory) (group : Nat) : Option (Nat × Nat) :=
  if m.live < 2 * group then none
  else match m.marks[2 * group - 2]?, m.marks[2 * group - 1]? with
    | some (some a), some (some b) => if a ≤ b then some (a, b) else none
    | _, _ => none

/-- Takes back what was noted since `before`: within a repetition also the marks that were moved. -/
def takeBack (isRepeating : Bool) (before now : Memory) : Memory :=
  if isRepeating then { before with place := now.place } else { now with live := before.live }

end Memory

/-- Whether steps succeed, and what they leave behind in either case. -/
abbrev Outcome := Bool × Memory

/-- What is still to be matched. -/
abbrev Rest := Nat → Memory → Outcome

namespace Outcome

def failed (m : Memory) : Outcome := (false, m)

/-- Another way if this one failed. -/
def orElse (o : Outcome) (other : Memory → Outcome) : Outcome :=
  if o.1 then o else other o.2

end Outcome

/-- The rest of what stands on its own: it ends where it ends. -/
def stop : Rest := fun p m => (true, m.moved p)

abbrev Subject := Array Char

namespace Subject

def isWordAt (s : Subject) (ascii : Bool) (p : Nat) : Bool := s[p]?.any (Category.word.test ascii)

/-- Whether exactly one of the two neighbours belongs to a word. -/
def isEdge (s : Subject) (ascii : Bool) (p : Nat) : Bool :=
  (p ≠ 0 && s.isWordAt ascii (p - 1)) != s.isWordAt ascii p

/-- An empty text has no edge, nor a place without one. -/
def satisfies (s : Subject) (p : Nat) : Anchor → Bool
  | .start => p = 0
  | .startOfLine => p = 0 || s[p - 1]? = some '\n'
  | .finish => p = s.size
  | .beforeLastBreak => p = s.size || (p + 1 = s.size && s[p]? = some '\n')
  | .endOfLine => p = s.size || s[p]? = some '\n'
  | .wordEdge ascii => s.isEdge ascii p
  | .notWordEdge ascii => !s.isEmpty && !s.isEdge ascii p

/-- Whether the `n` characters from two places on are the same, up to case. -/
def sameFrom (s : Subject) (mode : CaseMode) : (n p q : Nat) → Bool
  | 0, _, _ => true
  | n + 1, p, q =>
    match s[p]?, s[q]? with
    | some c, some d => mode.lower c.toNat = mode.lower d.toNat && sameFrom s mode n (p + 1) (q + 1)
    | _, _ => false

/-- How many characters from a place on pass a test, up to `most`. -/
def countWhile (s : Subject) (t : CharTest) : (most p : Nat) → Nat
  | 0, _ => 0
  | most + 1, p =>
    match s[p]? with
    | some c => if t.holds c then countWhile s t most (p + 1) + 1 else 0
    | none => 0

end Subject

/-- Another round is allowed below the upper bound. -/
def below (count : Nat) : Option Nat → Bool
  | some most => count < most
  | none => true

/-- The memory after single characters were counted. Tests that do not heed case move its place along. -/
def counted (t : CharTest) (m : Memory) (p n : Nat) : Memory :=
  match t with
  | .lowerSet _ _ _ _ => m.moved (p + n)
  | _ => m.moved p

/-- Tries the rest behind `least + extra` characters, then behind fewer ones. A place is passed over if the
rest starts with another character. -/
def fewer (s : Subject) (isRepeating : Bool) (startsWith : Option Nat) (rest : Rest) (saved : Memory) (p : Nat) :
    (extra : Nat) → Memory → Outcome
  | extra, m =>
    let q := p + extra
    let isPassed := startsWith.any fun n => !s[q]?.any (·.toNat = n)
    let go (m : Memory) : Outcome :=
      match extra with
      | 0 => .failed m
      | extra + 1 => fewer s isRepeating startsWith rest saved p extra m
    if isPassed then go m else (rest q (m.moved q)).orElse fun m => go (saved.takeBack isRepeating m)

/-- Tries the rest behind `count` characters, then behind more of them. -/
def more (s : Subject) (isRepeating : Bool) (t : CharTest) (most : Option Nat) (rest : Rest) (saved : Memory) :
    (fuel count p : Nat) → Memory → Outcome
  | 0, _, _, m => .failed m
  | fuel + 1, count, p, m =>
    if most.any (· < count) then .failed m
    else (rest p (m.moved p)).orElse fun m =>
      let m := saved.takeBack isRepeating m
      let n := s.countWhile t 1 p
      if n = 0 then .failed (m.moved p)
      else more s isRepeating t most rest saved fuel (count + 1) (p + 1) (counted t m p n)

/-- One character over and over. -/
def manyOf (s : Subject) (isRepeating : Bool) (startsWith : Option Nat) (least : Nat) (most : Option Nat)
    (t : CharTest) (p : Nat) (m : Memory) (rest : Rest) : Greed → Outcome
  | .greedy =>
    if s.size < p + least then .failed m
    else
      let n := s.countWhile t (min (s.size - p) (most.getD s.size)) p
      let m := counted t m p n
      if n < least then .failed m
      else fewer s isRepeating startsWith rest m (p + least) (n - least) m
  | .lazy =>
    if s.size < p + least then .failed m
    else
      let n := s.countWhile t least p
      let m := if least = 0 then m.moved p else counted t m p n
      if n < least then .failed m
      else more s isRepeating t most rest m (s.size - p + 1) least (p + least) m
  | .possessive =>
    if s.size < p + least then .failed m
    else
      let n := s.countWhile t (min (s.size - p) (most.getD s.size)) p
      let m := counted t m p n
      if n < least then .failed m else rest (p + n) m

/-- As many rounds as possible first. Above the lower bound a round must not start where the one before
it did. -/
def greedyRounds (body : Nat → Memory → Rest → Outcome) (least : Nat) (most : Option Nat) (rest : Rest) :
    (fuel count : Nat) → (last : Option Nat) → Rest
  | 0, _, _, _, m => .failed m
  | fuel + 1, count, last, p, m =>
    let m := m.moved p
    if count < least then
      (body p m (greedyRounds body least most rest fuel (count + 1) last)).orElse fun m => .failed (m.moved p)
    else
      let leave (m : Memory) : Outcome := (rest p m).orElse fun m => .failed (m.moved p)
      if below count most && last ≠ some p then
        (body p m (greedyRounds body least most rest fuel (count + 1) (some p))).orElse fun _ => leave m
      else leave m

/-- As few rounds as possible first. -/
def lazyRounds (isRepeating : Bool) (body : Nat → Memory → Rest → Outcome) (least : Nat) (most : Option Nat)
    (rest : Rest) : (fuel count : Nat) → (last : Option Nat) → Rest
  | 0, _, _, _, m => .failed m
  | fuel + 1, count, last, p, m =>
    let m := m.moved p
    if count < least then
      (body p m (lazyRounds isRepeating body least most rest fuel (count + 1) last)).orElse fun m =>
        .failed (m.moved p)
    else
      (rest p m).orElse fun after =>
        let m := (m.takeBack isRepeating after).moved p
        if below count most && last ≠ some p then
          (body p m (lazyRounds isRepeating body least most rest fuel (count + 1) (some p))).orElse fun m =>
            .failed (m.moved p)
        else .failed m

/-- As many rounds as possible, each of them final. What follows goes on where the last round came to,
even if it failed there. -/
def finalRounds (body : Nat → Memory → Rest → Outcome) (least : Nat) (most : Option Nat) :
    (fuel count : Nat) → (last : Option Nat) → Memory → Outcome
  | 0, _, _, m => .failed m
  | fuel + 1, count, last, m =>
    if count < least then
      let o := body m.place m stop
      if o.1 then finalRounds body least most fuel (count + 1) none o.2 else o
    else if below count most && last ≠ some m.place then
      let o := body m.place m stop
      if o.1 then finalRounds body least most fuel (count + 1) (some m.place) o.2
      else (true, m.takeBack true o.2)
    else (true, m)

/-- Every round above the lower bound moves on, one excepted. -/
def roundFuel (s : Subject) (least p : Nat) : Nat := least + (s.size - p) + 3

namespace Program

/-- The character that a program starts with whatever else it does. -/
def firstCode? : Program → Option Nat
  | .one (.code false n) _ => some n
  | _ => none

/-- Whether it shows at once that an alternative does not match. -/
def isHopeless (s : Subject) (p : Nat) : Program → Bool
  | .one t _ => t.isPlain && !s[p]?.any t.holds
  | _ => false

/-- What a program that goes on with another one starts with. -/
def startOr (next : Program) (after : Option Nat) : Option Nat :=
  match next with
  | .finish => after
  | p => p.firstCode?

/-- Runs the steps from a place on and then the rest. `isRepeating` tells whether a repetition is open around
the steps, and `after` what comes at once behind them. -/
def run (s : Subject) : Program → (isRepeating : Bool) → (after : Option Nat) → Nat → Memory → Rest → Outcome
  | .finish, _, _, p, m, rest => rest p m
  | .mark index next, r, a, p, m, rest => run s next r a p (m.note index p) rest
  | .one t next, r, a, p, m, rest =>
    if s[p]?.any t.holds then run s next r a (p + 1) m rest else .failed m
  | .place anchor next, r, a, p, m, rest =>
    if s.satisfies p anchor then run s next r a p m rest else .failed m
  | .same mode group next, r, a, p, m, rest =>
    match m.span? group with
    | some (i, j) =>
      if s.sameFrom mode (j - i) i p then run s next r a (p + (j - i)) m rest else .failed m
    | none => .failed m
  | .choose alternatives next, r, a, p, m, rest =>
    run s alternatives r none p m fun q m => run s next r a q m rest
  | .either first others, r, a, p, m, rest =>
    if first.isHopeless s p then run s others r a p m rest
    else (run s first r none p (m.moved p) rest).orElse fun after =>
      run s others r a p (m.takeBack r after) rest
  | .never, _, _, _, m, _ => .failed m
  | .ifGroup group yes no next, r, a, p, m, rest =>
    let follow : Rest := fun q m => run s next r a q m rest
    let start := next.startOr a
    if (m.span? group).isSome then run s yes r (if no = .finish then start else none) p m follow
    else run s no r start p m follow
  | .many g least most t next, r, a, p, m, rest =>
    manyOf s r (next.startOr a) least most t p m (fun q m => run s next r a q m rest) g
  | .rounds g least most body next, r, a, p, m, rest =>
    let follow : Rest := fun q m => run s next r a q m rest
    let fuel := roundFuel s least p
    match g with
    | .greedy => greedyRounds (run s body true none) least most follow fuel 0 none p (m.moved p)
    | .lazy => lazyRounds r (run s body true none) least most follow fuel 0 none p (m.moved p)
    | .possessive =>
      let o := finalRounds (run s body r none) least most fuel 0 none (m.moved p)
      if o.1 then follow o.2.place o.2 else .failed (o.2.moved p)
  | .look back negated body next, r, a, p, m, rest =>
    if p < back then if negated then run s next r a p m rest else .failed m
    else
      let o := run s body r none (p - back) (m.moved (p - back)) stop
      if negated then
        if o.1 then .failed o.2 else run s next r a p (m.takeBack r o.2) rest
      else if o.1 then run s next r a p o.2 rest
      else .failed o.2
  | .atomic body next, r, a, p, m, rest =>
    let o := run s body r none p (m.moved p) stop
    if o.1 then run s next r a o.2.place o.2 rest else .failed (o.2.moved p)

end Program

/-- Whether the expression matches the whole text. -/
def Expr.fullMatch (e : Expr) (text : List Char) : Bool :=
  let s : Subject := text.toArray
  let atEnd : Rest := fun p m => if p = s.size then (true, m.moved p) else .failed m
  e.least ≤ s.size &&
    (e.program.run s false none 0 { marks := .replicate (2 * e.groups) none } atEnd).1

end EntityGen.Pattern
