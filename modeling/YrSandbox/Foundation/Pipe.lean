import Mathlib.Data.List.Basic

/-! # Bounded pipes

A pipe holds what was written and not read yet, up to its capacity. Writing needs a read
end, and what is empty without a write end stays empty. -/

namespace YrSandbox

structure Pipe (α : Type u) (capacity : Nat) where
  content : List α
  within : content.length ≤ capacity
  writable : Bool -- the write end is open
  readable : Bool -- the read end is open

namespace Pipe

variable {α : Type u} {capacity : Nat} (pipe : Pipe α capacity)

def fresh : Pipe α capacity where
  content := []
  within := Nat.zero_le _
  writable := true
  readable := true

def room : Nat := capacity - pipe.content.length

def push (data : List α) (fits : data.length ≤ pipe.room) : Pipe α capacity where
  content := pipe.content ++ data
  within := by
    have within := pipe.within
    rw [room] at fits
    rw [List.length_append]
    omega
  writable := pipe.writable
  readable := pipe.readable

/-- The pipe without its first `count` elements. -/
def pull (count : Nat) : Pipe α capacity where
  content := pipe.content.drop count
  within := by
    rw [List.length_drop]
    exact Nat.le_trans (Nat.sub_le _ _) pipe.within
  writable := pipe.writable
  readable := pipe.readable

def closeWriter : Pipe α capacity := { pipe with writable := false }

def closeReader : Pipe α capacity := { pipe with readable := false }

def AtEnd : Prop := pipe.content = [] ∧ pipe.writable = false

instance [DecidableEq α] : Decidable pipe.AtEnd := inferInstanceAs (Decidable (_ ∧ _))

theorem room_of_empty (empty : pipe.content = []) : pipe.room = capacity := by
  rw [room, empty, List.length_nil, Nat.sub_zero]

end Pipe

end YrSandbox
