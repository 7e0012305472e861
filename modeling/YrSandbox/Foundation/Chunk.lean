import Mathlib.Data.List.Basic

/-! # Chunks of a byte sequence

A body that travels in pieces is cut into chunks that carry their offset. The
lemmas here say when a list of chunks is gap free and what its payloads spell;
they hold for sequences over any alphabet. -/

namespace YrSandbox

abbrev Bytes := List UInt8

/-- The `length` elements of `data` from `offset` on, fewer at the end. -/
def slice (data : List α) (offset length : Nat) : List α :=
  (data.drop offset).take length

@[simp] theorem slice_zero (data : List α) (offset : Nat) :
    slice data offset 0 = [] := by
  simp [slice]

@[simp] theorem length_slice (data : List α) (offset length : Nat) :
    (slice data offset length).length = min length (data.length - offset) := by
  simp [slice]

theorem take_append_slice (data : List α) (offset length : Nat) :
    data.take offset ++ slice data offset length = data.take (offset + length) :=
  List.take_add.symm

theorem slice_append_slice (data : List α) (offset left right : Nat) :
    slice data offset left ++ slice data (offset + left) right =
      slice data offset (left + right) := by
  simp only [slice, ← List.drop_drop]
  exact List.take_add.symm

theorem take_slice (data : List α) (offset length shorter : Nat) :
    (slice data offset length).take shorter =
      slice data offset (min shorter length) := by
  simp [slice, List.take_take]

theorem slice_ne_nil {data : List α} {offset length : Nat}
    (positive : 0 < length) (inside : offset < data.length) :
    slice data offset length ≠ [] := by
  intro empty
  have lengths := congrArg List.length empty
  simp only [length_slice, List.length_nil] at lengths
  omega

structure Chunk (α : Type u) where
  offset : Nat
  payload : List α
deriving DecidableEq, Repr

/-- `data` cut into pieces of `size` elements, the last one shorter. -/
def cut (size : Nat) (data : List α) : List (List α) :=
  (List.range ((data.length + size - 1) / size)).map fun index =>
    slice data (index * size) size

theorem flatten_slices (data : List α) (size count : Nat) :
    ((List.range count).map fun index => slice data (index * size) size).flatten =
      data.take (count * size) := by
  induction count with
  | zero => simp
  | succ count induction =>
      rw [List.range_succ, List.map_append, List.flatten_append, induction]
      simp only [List.map_cons, List.map_nil, List.flatten_cons, List.flatten_nil,
        List.append_nil]
      rw [take_append_slice, Nat.succ_mul]

theorem flatten_cut {size : Nat} (positive : 0 < size) (data : List α) :
    (cut size data).flatten = data := by
  rw [cut, flatten_slices]
  apply List.take_of_length_le
  have division := Nat.div_add_mod (data.length + size - 1) size
  have remainder := Nat.mod_lt (data.length + size - 1) positive
  rw [Nat.mul_comm]
  omega

theorem length_le_of_mem_cut {size : Nat} {data piece : List α}
    (isPiece : piece ∈ cut size data) :
    piece.length ≤ min size data.length := by
  rcases List.mem_map.mp isPiece with ⟨index, _, rfl⟩
  rw [length_slice]
  omega

@[simp] theorem length_cut (size : Nat) (data : List α) :
    (cut size data).length = (data.length + size - 1) / size := by
  simp [cut]

theorem cut_append {size : Nat} (positive : 0 < size) {piece : List α}
    (full : piece.length = size) (data : List α) :
    cut size (piece ++ data) = piece :: cut size data := by
  have count : ((piece ++ data).length + size - 1) / size =
      (data.length + size - 1) / size + 1 := by
    have length : (piece ++ data).length + size - 1 = data.length + size - 1 + size := by
      rw [List.length_append, full]
      omega
    rw [length, Nat.add_div_right _ positive]
  rw [cut, count, List.range_succ_eq_map, List.map_cons, List.map_map]
  congr 1
  · rw [Nat.zero_mul, slice, List.drop_zero, ← full, List.take_left]
  · apply List.map_congr_left
    intro index _
    have position : (index + 1) * size = piece.length + index * size := by
      rw [full, Nat.succ_mul, Nat.add_comm]
    rw [Function.comp_apply, slice, slice, Nat.succ_eq_add_one, position,
      List.drop_length_add_append]

theorem cut_nil {size : Nat} (positive : 0 < size) : cut size ([] : List α) = [] := by
  rw [cut, List.length_nil, Nat.zero_add, Nat.div_eq_of_lt (Nat.sub_one_lt_of_lt positive)]
  rfl

theorem cut_of_length_le {size : Nat} {data : List α} (nonempty : data ≠ [])
    (fits : data.length ≤ size) : cut size data = [data] := by
  have positive := List.length_pos_iff.mpr nonempty
  have count : (data.length + size - 1) / size = 1 := by
    apply Nat.div_eq_of_lt_le <;> omega
  rw [cut, count, List.range_one, List.map_singleton, Nat.zero_mul, slice, List.drop_zero,
    List.take_of_length_le fits]

/-! ### Cutting by offsets -/

/-- `range(0, length, size)` -/
def offsets (size length : Nat) : List Nat :=
  (List.range length).filter fun offset => decide (offset % size = 0)

theorem pieces_succ {size : Nat} (positive : 0 < size) (length : Nat) :
    (length + 1 + size - 1) / size =
      (length + size - 1) / size + if length % size = 0 then 1 else 0 := by
  have division := Nat.div_add_mod length size
  have remainder := Nat.mod_lt length positive
  have before : length + 1 + size - 1 = length + size := by omega
  rw [before, Nat.add_div_right _ positive]
  split
  · rename_i full
    have pieces : length + size - 1 = size * (length / size) + (size - 1) := by omega
    rw [pieces, Nat.mul_add_div positive, Nat.div_eq_of_lt (Nat.sub_one_lt_of_lt positive)]
  · rename_i partly
    have pieces : length + size - 1 = size * (length / size + 1) + (length % size - 1) := by
      rw [Nat.mul_succ]
      omega
    rw [pieces, Nat.mul_add_div positive,
      Nat.div_eq_of_lt (Nat.lt_of_le_of_lt (Nat.sub_le _ _) remainder)]

theorem offsets_eq {size : Nat} (positive : 0 < size) (length : Nat) :
    offsets size length =
      (List.range ((length + size - 1) / size)).map (· * size) := by
  induction length with
  | zero => simp [offsets, Nat.div_eq_of_lt (Nat.sub_one_lt_of_lt positive)]
  | succ length induction =>
      rw [offsets, List.range_succ, List.filter_append, ← offsets, induction,
        pieces_succ positive]
      by_cases full : length % size = 0
      · have count : (length + size - 1) / size * size = length := by
          have division := Nat.div_add_mod length size
          have pieces : length + size - 1 = size * (length / size) + (size - 1) := by omega
          rw [pieces, Nat.mul_add_div positive,
            Nat.div_eq_of_lt (Nat.sub_one_lt_of_lt positive), Nat.add_zero, Nat.mul_comm]
          omega
        simp [full, List.range_succ, count]
      · simp [full]

theorem map_slice_offsets {size : Nat} (positive : 0 < size) (data : List α) :
    ((offsets size data.length).map fun offset => slice data offset size) =
      cut size data := by
  rw [offsets_eq positive, List.map_map]
  rfl

/-! ### The last piece -/

def markLast : List α → List (α × Bool)
  | [] => []
  | element :: rest => (element, rest.isEmpty) :: markLast rest

theorem mapIdx_eq_markLast (use : α × Bool → β) (elements : List α) :
    (elements.mapIdx fun index element => use (element, index + 1 == elements.length)) =
      (markLast elements).map use := by
  induction elements with
  | nil => rfl
  | cons element rest induction =>
      rw [List.mapIdx_cons, markLast, List.map_cons, ← induction]
      cases rest with
      | nil => rfl
      | cons _ _ => simp

theorem map_snd_markLast {elements : List α} (nonempty : elements ≠ []) :
    (markLast elements).map Prod.snd =
      List.replicate (elements.length - 1) false ++ [true] := by
  induction elements with
  | nil => exact absurd rfl nonempty
  | cons element rest induction =>
      cases rest with
      | nil => rfl
      | cons next others =>
          rw [markLast, List.map_cons, induction (List.cons_ne_nil _ _)]
          rfl

namespace Chunk

def finish (chunk : Chunk α) : Nat := chunk.offset + chunk.payload.length

/-- The chunk holds the bytes that `body` has at its offset. -/
def CutFrom (body : List α) (chunk : Chunk α) : Prop :=
  chunk.payload = slice body chunk.offset chunk.payload.length

instance [DecidableEq α] (body : List α) (chunk : Chunk α) :
    Decidable (chunk.CutFrom body) :=
  inferInstanceAs (Decidable (_ = _))

theorem cutFrom_slice (body : List α) (offset length : Nat) :
    CutFrom body ⟨offset, slice body offset length⟩ := by
  simp only [CutFrom, slice, List.length_take]
  exact List.take_eq_take_min

end Chunk

/-- The chunks follow each other without gap or overlap from `start` to
`finish`. -/
def Contiguous : Nat → List (Chunk α) → Nat → Prop
  | start, [], finish => start = finish
  | start, chunk :: chunks, finish =>
      chunk.offset = start ∧ Contiguous chunk.finish chunks finish

def payloads (chunks : List (Chunk α)) : List α := chunks.flatMap Chunk.payload

@[simp] theorem payloads_nil : payloads ([] : List (Chunk α)) = [] := rfl

@[simp] theorem payloads_cons (chunk : Chunk α) (chunks : List (Chunk α)) :
    payloads (chunk :: chunks) = chunk.payload ++ payloads chunks := rfl

@[simp] theorem payloads_append (left right : List (Chunk α)) :
    payloads (left ++ right) = payloads left ++ payloads right :=
  List.flatMap_append

namespace Contiguous

@[simp] theorem nil_iff {start finish : Nat} :
    Contiguous start ([] : List (Chunk α)) finish ↔ start = finish := Iff.rfl

@[simp] theorem cons_iff {start finish : Nat} {chunk : Chunk α}
    {chunks : List (Chunk α)} :
    Contiguous start (chunk :: chunks) finish ↔
      chunk.offset = start ∧ Contiguous chunk.finish chunks finish := Iff.rfl

theorem append_iff {start finish : Nat} {left right : List (Chunk α)} :
    Contiguous start (left ++ right) finish ↔
      ∃ middle, Contiguous start left middle ∧ Contiguous middle right finish := by
  induction left generalizing start with
  | nil => simp
  | cons chunk chunks induction =>
      simp only [List.cons_append, cons_iff, induction]
      constructor
      · rintro ⟨starts, middle, left, right⟩
        exact ⟨middle, ⟨starts, left⟩, right⟩
      · rintro ⟨middle, ⟨starts, left⟩, right⟩
        exact ⟨starts, middle, left, right⟩

theorem concat {start finish : Nat} {chunks : List (Chunk α)} {chunk : Chunk α}
    (contiguous : Contiguous start chunks finish)
    (follows : chunk.offset = finish) :
    Contiguous start (chunks ++ [chunk]) chunk.finish :=
  append_iff.mpr ⟨finish, contiguous, follows, rfl⟩

theorem slices (data : List α) (start size count : Nat)
    (needed : count * size < data.length + size) :
    Contiguous start ((List.range count).map fun index =>
        (⟨start + index * size, slice data (index * size) size⟩ : Chunk α))
      (start + min (count * size) data.length) := by
  induction count with
  | zero => simp
  | succ count induction =>
      have step : (count + 1) * size = count * size + size := Nat.succ_mul count size
      have inside : count * size < data.length := by omega
      have front := induction (by omega)
      rw [Nat.min_eq_left (Nat.le_of_lt inside)] at front
      rw [List.range_succ, List.map_append]
      have whole : Contiguous start
          (_ ++ [(⟨start + count * size, slice data (count * size) size⟩ : Chunk α)]) _ :=
        front.concat rfl
      have finish : Chunk.finish
          (⟨start + count * size, slice data (count * size) size⟩ : Chunk α) =
            start + min ((count + 1) * size) data.length := by
        simp only [Chunk.finish, length_slice]
        omega
      rw [finish] at whole
      exact whole

theorem map_offsets {size : Nat} (positive : 0 < size) (data : List α) (start : Nat) :
    Contiguous start ((offsets size data.length).map fun offset =>
        (⟨start + offset, slice data offset size⟩ : Chunk α))
      (start + data.length) := by
  have division := Nat.div_add_mod (data.length + size - 1) size
  have remainder := Nat.mod_lt (data.length + size - 1) positive
  have order := Nat.mul_comm size ((data.length + size - 1) / size)
  have whole := slices data start size ((data.length + size - 1) / size) (by omega)
  rw [Nat.min_eq_right (by omega)] at whole
  rw [offsets_eq positive, List.map_map]
  exact whole

theorem length_payloads {start finish : Nat} {chunks : List (Chunk α)}
    (contiguous : Contiguous start chunks finish) :
    start + (payloads chunks).length = finish := by
  induction chunks generalizing start with
  | nil => exact contiguous
  | cons chunk chunks induction =>
      rcases contiguous with ⟨rfl, rest⟩
      have remaining := induction rest
      simp only [Chunk.finish] at remaining
      simp only [payloads_cons, List.length_append]
      omega

theorem start_le {start finish : Nat} {chunks : List (Chunk α)}
    (contiguous : Contiguous start chunks finish) : start ≤ finish := by
  have lengths := contiguous.length_payloads
  omega

theorem finish_le {start finish : Nat} {chunks : List (Chunk α)}
    (contiguous : Contiguous start chunks finish) {chunk : Chunk α}
    (member : chunk ∈ chunks) : start ≤ chunk.offset ∧ chunk.finish ≤ finish := by
  induction chunks generalizing start with
  | nil => cases member
  | cons head tail induction =>
      rcases contiguous with ⟨rfl, rest⟩
      have ends := rest.start_le
      rcases List.mem_cons.mp member with rfl | later
      · exact ⟨Nat.le_refl _, ends⟩
      · have inside := induction rest later
        simp only [Chunk.finish] at inside ends ⊢
        omega

theorem filter_beyond {start finish : Nat} {chunks : List (Chunk α)}
    (contiguous : Contiguous start chunks finish) (position : Nat) :
    ∃ middle, (middle = start ∨ middle ≤ position) ∧
      Contiguous middle (chunks.filter fun chunk => decide (position < chunk.finish))
        finish := by
  induction chunks generalizing start with
  | nil => exact ⟨start, .inl rfl, contiguous⟩
  | cons chunk chunks induction =>
      rcases contiguous with ⟨rfl, rest⟩
      by_cases beyond : position < chunk.finish
      · have kept : chunks.filter (fun other => decide (position < other.finish)) =
            chunks := by
          rw [List.filter_eq_self]
          intro other member
          have after := (rest.finish_le member).1
          refine decide_eq_true ?_
          simp only [Chunk.finish] at after beyond ⊢
          omega
        refine ⟨chunk.offset, .inl rfl, ?_⟩
        rw [List.filter_cons_of_pos (by simpa using beyond), kept]
        exact ⟨rfl, rest⟩
      · rcases induction rest with ⟨middle, lies, remaining⟩
        refine ⟨middle, .inr ?_, ?_⟩
        · omega
        · rw [List.filter_cons_of_neg (by simpa using beyond)]
          exact remaining

theorem covers {start finish position : Nat} {chunks : List (Chunk α)}
    (contiguous : Contiguous start chunks finish) (after : start ≤ position)
    (before : position < finish) :
    ∃ chunk ∈ chunks, chunk.offset ≤ position ∧ position < chunk.finish := by
  induction chunks generalizing start with
  | nil =>
      have same : start = finish := contiguous
      omega
  | cons chunk chunks induction =>
      rcases contiguous with ⟨rfl, rest⟩
      by_cases inside : position < chunk.finish
      · exact ⟨chunk, List.mem_cons_self, after, inside⟩
      · rcases induction rest (by omega) with ⟨other, member, found⟩
        exact ⟨other, List.mem_cons_of_mem chunk member, found⟩

theorem drop_succ {start finish index : Nat} {chunks : List (Chunk α)} {chunk : Chunk α}
    (contiguous : Contiguous start chunks finish) (found : chunks[index]? = some chunk) :
    Contiguous chunk.finish (chunks.drop (index + 1)) finish := by
  induction chunks generalizing start index with
  | nil => cases found
  | cons head tail induction =>
      rcases contiguous with ⟨_, rest⟩
      cases index with
      | zero =>
          cases found
          exact rest
      | succ index => exact induction rest (by simpa using found)

theorem separated {start finish : Nat} {chunks : List (Chunk α)}
    (contiguous : Contiguous start chunks finish) {chunk other : Chunk α}
    (member : chunk ∈ chunks) (otherMember : other ∈ chunks) :
    other.finish ≤ chunk.finish ∨ chunk.finish ≤ other.offset := by
  induction chunks generalizing start with
  | nil => cases member
  | cons head tail induction =>
      rcases contiguous with ⟨rfl, rest⟩
      rcases List.mem_cons.mp member with rfl | later <;>
        rcases List.mem_cons.mp otherMember with rfl | otherLater
      · exact .inl (Nat.le_refl _)
      · exact .inr (rest.finish_le otherLater).1
      · have after := (rest.finish_le later).1
        refine .inl (Nat.le_trans after ?_)
        simp [Chunk.finish]
      · exact induction rest later otherLater

theorem payloads_eq_slice {body : List α} {start finish : Nat}
    {chunks : List (Chunk α)} (contiguous : Contiguous start chunks finish)
    (cut : ∀ chunk ∈ chunks, chunk.CutFrom body) :
    payloads chunks = slice body start (finish - start) := by
  induction chunks generalizing start with
  | nil =>
      have same : start = finish := contiguous
      simp [same]
  | cons chunk chunks induction =>
      rcases contiguous with ⟨rfl, rest⟩
      have first : chunk.payload = slice body chunk.offset chunk.payload.length :=
        cut chunk (by simp)
      have others := induction rest fun other member => cut other (by simp [member])
      have ends := rest.start_le
      simp only [Chunk.finish] at others ends
      rw [payloads_cons, others]
      nth_rewrite 1 [first]
      rw [slice_append_slice]
      congr 1
      omega

theorem cutFrom {body : List α} {start finish : Nat} {chunks : List (Chunk α)}
    (contiguous : Contiguous start chunks finish)
    (spelt : payloads chunks = slice body start (finish - start)) {chunk : Chunk α}
    (member : chunk ∈ chunks) : chunk.CutFrom body := by
  induction chunks generalizing start with
  | nil => cases member
  | cons first chunks induction =>
      have lengths := contiguous.length_payloads
      have whole := congrArg List.length spelt
      rcases contiguous with ⟨rfl, rest⟩
      have ends := rest.start_le
      simp only [payloads_cons, List.length_append, length_slice, Chunk.finish] at *
      have split : finish - first.offset =
          first.payload.length + (finish - first.finish) := by
        simp only [Chunk.finish]
        omega
      rw [split, ← slice_append_slice] at spelt
      have parts := List.append_inj spelt (by rw [length_slice]; omega)
      rcases List.mem_cons.mp member with rfl | later
      · exact parts.1
      · exact induction rest parts.2 later

end Contiguous

end YrSandbox
