/-! # Getting hold of a tool

An attempt first installs the wanted version. If that fails it falls back on a version that is
already there, and if that fails too the build has to stop.
-/

namespace JobScript.Toolchain

inductive State
  | installing
  | fallback
  | failed
  | resolved
deriving DecidableEq, Repr

namespace State

def name : State → String
  | .installing => "installing"
  | .fallback => "fallback"
  | .failed => "failed"
  | .resolved => "resolved"

/-- Nothing is left to try. -/
def isTerminal : State → Bool
  | .failed | .resolved => true
  | .installing | .fallback => false

/-- A success resolves the attempt; a failure leads to the next thing to try. -/
def next (succeeded : Bool) : State → State
  | .installing => if succeeded then .resolved else .fallback
  | .fallback => if succeeded then .resolved else .failed
  | state => state

theorem next_true {s : State} (h : s.isTerminal = false) : s.next true = .resolved := by
  cases s <;> first | rfl | cases h

/-- A failure that ends an attempt leaves it without the tool. -/
theorem next_false {s : State} (h : s.isTerminal = false) (hlast : (s.next false).isTerminal = true) :
    s.next false = .failed := by
  cases s with
  | installing => cases hlast
  | fallback => rfl
  | failed => cases h
  | resolved => cases h

/-- How many outcomes are taken in from a state on, at most. -/
def tries : State → Nat
  | .installing => 2
  | .fallback => 1
  | .failed | .resolved => 0

theorem tries_next_lt {s : State} (h : s.isTerminal = false) (succeeded : Bool) :
    (s.next succeeded).tries < s.tries := by
  cases s <;> cases succeeded <;> first | decide | cases h

end State

inductive MachineError
  | alreadyOver (state : State)
  | noCommand (state : State)
deriving DecidableEq, Repr

def MachineError.message : MachineError → String
  | .alreadyOver state => s!"Bootstrap already {state.name}"
  | .noCommand state => s!"No command for terminal state {state.name}"

/-- An attempt and the states it went through, the present one last. -/
structure Machine where
  state : State
  history : List State
deriving DecidableEq, Repr

namespace Machine

def start : Machine := ⟨.installing, [.installing]⟩

def isOver (m : Machine) : Bool := m.state.isTerminal

def advance (m : Machine) (succeeded : Bool) : Except MachineError Machine :=
  if m.isOver then .error (.alreadyOver m.state)
  else
    let state := m.state.next succeeded
    .ok ⟨state, m.history ++ [state]⟩

theorem advance_of_isOver {m : Machine} (h : m.isOver = true) (succeeded : Bool) :
    m.advance succeeded = .error (.alreadyOver m.state) := by
  simp [advance, h]

theorem advance_of_not_isOver {m : Machine} (h : m.isOver = false) (succeeded : Bool) :
    m.advance succeeded =
      .ok ⟨m.state.next succeeded, m.history ++ [m.state.next succeeded]⟩ := by
  simp [advance, h]

theorem advance_eq_ok_iff {m next : Machine} {succeeded : Bool} : m.advance succeeded = .ok next ↔
    m.isOver = false ∧ next = ⟨m.state.next succeeded, m.history ++ [m.state.next succeeded]⟩ := by
  cases h : m.isOver with
  | true => simp [advance_of_isOver h]
  | false => simp [advance_of_not_isOver h, eq_comm]

/-- Every outcome leaves fewer to come. -/
theorem tries_lt_of_advance {m next : Machine} {succeeded : Bool} (h : m.advance succeeded = .ok next) :
    next.state.tries < m.state.tries := by
  obtain ⟨hover, rfl⟩ := advance_eq_ok_iff.mp h
  exact State.tries_next_lt hover succeeded

/-- Outcomes are taken in until the attempt is over; the rest is not looked at. -/
def replay (m : Machine) : List Bool → Machine
  | [] => m
  | succeeded :: rest =>
    match m.advance succeeded with
    | .ok m => m.replay rest
    | .error _ => m

def simulate (outcomes : List Bool) : Machine := start.replay outcomes

theorem replay_of_isOver {m : Machine} (h : m.isOver = true) (outcomes : List Bool) :
    m.replay outcomes = m := by
  cases outcomes <;> simp [replay, advance_of_isOver, h]

end Machine

end JobScript.Toolchain
