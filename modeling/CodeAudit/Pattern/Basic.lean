/-!
# Patterns

A pattern describes stretches of a sequence.  It is matched by marking: a `Run` is the pattern with
a mark on every place that waits for the next element, and `Run.advance` moves all marks past one
boundary between two elements.  So a search reads the sequence once, whatever the pattern, and
alternatives are followed side by side.

`Pattern.occursIn` says whether some stretch of a sequence matches.  Conditions on a boundary, such
as the beginning of the sequence or the edge of a word, are part of the pattern (`between`).
-/

namespace CodeAudit

/-- A description of stretches of a sequence over `σ`. -/
inductive Pattern (σ : Type) where
  /-- The empty stretch. -/
  | empty
  /-- One accepted element. -/
  | element (accepts : σ → Bool)
  /-- The empty stretch, at a boundary whose two neighbours satisfy a condition. -/
  | between (holds : Option σ → Option σ → Bool)
  /-- One stretch after another. -/
  | seq (first second : Pattern σ)
  /-- Either of two stretches. -/
  | either (left right : Pattern σ)
  /-- Any number of stretches one after another. -/
  | star (body : Pattern σ)

namespace Pattern

variable {σ : Type}

/-- A pattern with marks: `armed` on an element that may match next, `live` where one is inside. -/
inductive Run (σ : Type) where
  | empty
  | element (accepts : σ → Bool) (armed : Bool)
  | between (holds : Option σ → Option σ → Bool)
  | seq (live : Bool) (first second : Run σ)
  | either (live : Bool) (left right : Run σ)
  | star (live : Bool) (body : Run σ)

namespace Run

/-- Whether some element is armed. -/
def isLive : Run σ → Bool
  | empty | between _ => false
  | element _ armed => armed
  | seq live _ _ | either live _ _ | star live _ => live

/-- The pattern without any marks. -/
def start : Pattern σ → Run σ
  | .empty => empty
  | .element accepts => element accepts false
  | .between holds => between holds
  | .seq first second => seq false (start first) (start second)
  | .either left right => either false (start left) (start right)
  | .star body => star false (start body)

/-- Moves the marks past the boundary between `previous` and `next`: armed elements that accept
`previous` have matched, and `enter` says whether a match may begin here.  The answer tells whether
a match may end here. -/
def advance (previous next : Option σ) : Bool → Run σ → Bool × Run σ
  | enter, empty => (enter, empty)
  | enter, element accepts armed => (armed && previous.any accepts, element accepts enter)
  | enter, between holds => (enter && holds previous next, between holds)
  | enter, seq live first second =>
    if !enter && !live then (false, seq live first second)
    else
      let (middle, first) := advance previous next enter first
      let (leave, second) := advance previous next middle second
      (leave, seq (first.isLive || second.isLive) first second)
  | enter, either live left right =>
    if !enter && !live then (false, either live left right)
    else
      let (leaveLeft, left) := advance previous next enter left
      let (leaveRight, right) := advance previous next enter right
      (leaveLeft || leaveRight, either (left.isLive || right.isLive) left right)
  | enter, star live body =>
    if !enter && !live then (false, star live body)
    else
      let (again, body') := advance previous next enter body
      if again && !enter then
        let (_, body'') := advance previous next true body
        (true, star body''.isLive body'')
      else (enter || again, star body'.isLive body')

/-- Whether a match that begins at any boundary of the sequence ends at one, given the element
before the sequence and the marks that are set already. -/
def finds (previous : Option σ) (run : Run σ) : List σ → Bool
  | [] => (run.advance previous none true).1
  | c :: rest =>
    let (leave, run) := run.advance previous (some c) true
    leave || finds (some c) run rest

end Run

/-- Whether some stretch of the sequence matches. -/
def occursIn (pattern : Pattern σ) (sequence : List σ) : Bool :=
  (Run.start pattern).finds none sequence

/-- One pattern after another. -/
def inOrder : List (Pattern σ) → Pattern σ
  | [] => empty
  | [p] => p
  | p :: rest => seq p (inOrder rest)

/-- Any of several patterns; `none` of them matches nothing. -/
def anyOf : List (Pattern σ) → Pattern σ
  | [] => element fun _ => false
  | [p] => p
  | p :: rest => either p (anyOf rest)

/-- The pattern or nothing. -/
def optional (p : Pattern σ) : Pattern σ := either p empty

/-- The pattern at least once. -/
def plus (p : Pattern σ) : Pattern σ := seq p (star p)

/-- The pattern exactly `n` times. -/
def times (p : Pattern σ) (n : Nat) : Pattern σ := inOrder (List.replicate n p)

/-- The pattern from `low` to `low + extra` times. -/
def upTo (p : Pattern σ) (low extra : Nat) : Pattern σ :=
  inOrder (List.replicate low p ++ List.replicate extra (optional p))

/-- The boundary before the first element. -/
def beginning : Pattern σ := between fun previous _ => previous.isNone

/-- The boundary after the last element. -/
def ending : Pattern σ := between fun _ next => next.isNone

end Pattern

end CodeAudit
