import Mathlib.Data.List.Induction
import StatusDisplay.Proofs.Payloads

/-!
# Serializing into one payload

All serializers work on one payload. Most add their chunks to what it holds; a frame and a row clear
it first. Clearing and appending a chunk are all that happens to it, so a sequence of serializations
is a sequence of edits (`Serialization.runAll_eq`). A payload without a capacity would hold the chunks
since the last clearing (`Edit.kept`). The payload holds just these, for as long as they fit, and comes
to a halt in front of the first chunk that does not (`halts_at_first_misfit`).
-/

namespace StatusDisplay

/-! ## Edits -/

/-- The least that is done to a payload. -/
inductive Edit where
  | clear
  | append (chunk : Chunk)
  deriving DecidableEq, Repr

namespace Edit

/-- Makes one edit. -/
def make (payload : Payload) : Edit → Except Defect Payload
  | clear => .ok .empty
  | append chunk => payload.append chunk

/-- Makes edits, one after the other. -/
def makeAll (payload : Payload) (edits : List Edit) : Except Defect Payload :=
  edits.foldlM make payload

/-- The chunks there are after an edit, were there no capacity. -/
def keep (chunks : List Chunk) : Edit → List Chunk
  | clear => []
  | append chunk => chunks ++ [chunk]

/-- The chunks since the last clearing, in their order; what the payload starts with is the first. -/
def kept (start : Payload) (edits : List Edit) : List Chunk := edits.foldl keep [start.bytes]

/-- There is never more than a payload can hold. -/
def Fit (start : Payload) (edits : List Edit) : Prop :=
  ∀ before, before <+: edits → (kept start before).flatten.length ≤ Payload.capacity

/-- All edits before a chunk fit, and with the chunk there would be too much. -/
structure FirstMisfit (start : Payload) (edits before : List Edit) (chunk : Chunk) : Prop where
  next : before ++ [append chunk] <+: edits
  fit : Fit start before
  misfit : Payload.capacity < (kept start before).flatten.length + chunk.length

variable {start p q : Payload} {edits before : List Edit} {edit : Edit} {chunk : Chunk}

/-! ## What edits keep -/

theorem kept_concat (start : Payload) (edits : List Edit) (edit : Edit) :
    kept start (edits ++ [edit]) = keep (kept start edits) edit := by
  rw [kept, List.foldl_append]
  rfl

theorem foldl_keep_appends (chunks more : List Chunk) :
    (more.map append).foldl keep chunks = chunks ++ more := by
  induction more generalizing chunks with
  | nil => exact (List.append_nil chunks).symm
  | cons chunk more ih =>
    rw [List.map_cons, List.foldl_cons, ih, keep, List.append_assoc]
    rfl

/-- Without a clearing everything is kept. -/
theorem kept_appends (start : Payload) (chunks : List Chunk) :
    kept start (chunks.map append) = start.bytes :: chunks :=
  foldl_keep_appends _ _

/-- With one, what was appended behind it. -/
theorem kept_clear_appends (start : Payload) (edits : List Edit) (chunks : List Chunk) :
    kept start (edits ++ clear :: chunks.map append) = chunks := by
  rw [kept, List.foldl_append, List.foldl_cons, foldl_keep_appends]
  rfl

theorem fit_nil (start : Payload) : Fit start [] := by
  intro before none
  obtain rfl := List.prefix_nil.1 none
  rw [kept, List.foldl_nil, List.flatten_singleton]
  exact start.length_le

theorem fit_concat : Fit start (edits ++ [edit]) ↔
    Fit start edits ∧ (kept start (edits ++ [edit])).flatten.length ≤ Payload.capacity := by
  constructor
  · intro fit
    exact ⟨fun before inside => fit before (inside.trans (List.prefix_append _ _)),
      fit _ (List.prefix_refl _)⟩
  · rintro ⟨fit, last⟩ before inside
    rcases List.prefix_concat_iff.1 inside with rfl | inside
    · exact last
    · exact fit before inside

/-! ## Making edits -/

theorem makeAll_append (payload : Payload) (edits more : List Edit) :
    makeAll payload (edits ++ more) = (makeAll payload edits).bind (makeAll · more) :=
  List.foldlM_append

theorem makeAll_concat (payload : Payload) (edits : List Edit) (edit : Edit) :
    makeAll payload (edits ++ [edit]) = (makeAll payload edits).bind (make · edit) := by
  rw [makeAll_append]
  congr 1
  funext made
  exact bind_pure (make made edit)

theorem makeAll_concat_eq_ok_iff : makeAll start (edits ++ [edit]) = .ok p ↔
    ∃ reached, makeAll start edits = .ok reached ∧ make reached edit = .ok p := by
  rw [makeAll_concat]
  cases makeAll start edits <;> simp [Except.bind]

theorem makeAll_concat_eq_error_iff {defect : Defect} :
    makeAll start (edits ++ [edit]) = .error defect ↔ makeAll start edits = .error defect ∨
      ∃ reached, makeAll start edits = .ok reached ∧ make reached edit = .error defect := by
  rw [makeAll_concat]
  cases makeAll start edits <;> simp [Except.bind]

theorem makeAll_appends (payload : Payload) (chunks : List Chunk) :
    makeAll payload (chunks.map append) = payload.appendAll chunks :=
  List.foldlM_map

/-- One edit: the payload follows the chunks that are kept. -/
theorem make_eq_ok_iff {chunks : List Chunk} (holds : p.bytes = chunks.flatten) :
    make p edit = .ok q ↔ q.bytes = (keep chunks edit).flatten := by
  cases edit with
  | clear => simp [make, keep, Payload.ext_iff, Payload.empty, eq_comm]
  | append chunk =>
    rw [make, Payload.append_eq_ok_iff, keep, List.flatten_append, List.flatten_singleton, holds]

/--
A run of edits: they are made exactly when they fit, and the payload then holds what they keep.
-/
theorem makeAll_eq_ok_iff :
    makeAll start edits = .ok p ↔ Fit start edits ∧ p.bytes = (kept start edits).flatten := by
  -- On the last edit: that the payload holds what is kept is what the earlier ones hand on to it.
  induction edits using List.reverseRecOn generalizing p with
  | nil =>
    have none : makeAll start [] = .ok start := rfl
    simp [none, fit_nil, kept, Payload.ext_iff, eq_comm]
  | append_singleton edits edit ih =>
    rw [makeAll_concat_eq_ok_iff, fit_concat, kept_concat]
    constructor
    · rintro ⟨reached, earlier, made⟩
      obtain ⟨fit, holds⟩ := ih.1 earlier
      have bytes := (make_eq_ok_iff holds).1 made
      exact ⟨⟨fit, bytes ▸ p.length_le⟩, bytes⟩
    · rintro ⟨⟨fit, _⟩, bytes⟩
      have within := fit edits (List.prefix_refl edits)
      exact ⟨⟨_, within⟩, ih.2 ⟨fit, rfl⟩, (make_eq_ok_iff rfl).2 bytes⟩

/-- Edits that fit are made. -/
theorem Fit.exists_made (fit : Fit start edits) : ∃ made, makeAll start edits = .ok made ∧
    made.bytes = (kept start edits).flatten :=
  ⟨⟨(kept start edits).flatten, fit _ (List.prefix_refl _)⟩, makeAll_eq_ok_iff.2 ⟨fit, rfl⟩, rfl⟩

/-! ## The first chunk that does not fit -/

/-- Nothing but a chunk that does not fit is refused. -/
theorem append_eq_error_iff {defect : Defect} : p.append chunk = .error defect ↔
    defect = .payloadOverflow ∧ Payload.capacity < p.bytes.length + chunk.length := by
  rw [Payload.append, ← List.length_append]
  split
  case isTrue fits =>
    simp only [reduceCtorEq, false_iff, not_and]
    intro _
    omega
  case isFalse beyond =>
    simp only [Except.error.injEq]
    constructor
    · rintro rfl
      exact ⟨rfl, by omega⟩
    · exact fun defect => defect.1.symm

theorem eq_overflow_of_make {defect : Defect} (h : make p edit = .error defect) :
    defect = .payloadOverflow := by
  cases edit with
  | clear => exact nomatch h
  | append chunk => exact (append_eq_error_iff.1 h).1

theorem eq_overflow_of_makeAll {defect : Defect} (h : makeAll start edits = .error defect) :
    defect = .payloadOverflow := by
  induction edits using List.reverseRecOn with
  | nil => exact nomatch h
  | append_singleton edits edit ih =>
    rcases makeAll_concat_eq_error_iff.1 h with earlier | ⟨reached, _, refused⟩
    · exact ih earlier
    · exact eq_overflow_of_make refused

theorem kept_concat_append (start : Payload) (edits : List Edit) (chunk : Chunk) :
    (kept start (edits ++ [append chunk])).flatten.length =
      (kept start edits).flatten.length + chunk.length := by
  rw [kept_concat, keep, List.flatten_append, List.flatten_singleton, List.length_append]

theorem FirstMisfit.not_fit (first : FirstMisfit start edits before chunk) : ¬Fit start edits := by
  intro fit
  have within := fit _ first.next
  rw [kept_concat_append] at within
  exact absurd first.misfit (Nat.not_lt.2 within)

/-- No first misfit is behind another, since all edits before a first misfit fit. -/
theorem FirstMisfit.eq_of_prefix {before' : List Edit} {chunk' : Chunk}
    (first : FirstMisfit start edits before chunk)
    (first' : FirstMisfit start edits before' chunk')
    (inside : before ++ [append chunk] <+: before' ++ [append chunk']) :
    before ++ [append chunk] = before' ++ [append chunk'] := by
  refine (List.prefix_concat_iff.1 inside).resolve_right fun behind => ?_
  exact { first with next := behind : FirstMisfit start before' before chunk }.not_fit first'.fit

theorem FirstMisfit.unique {before' : List Edit} {chunk' : Chunk}
    (first : FirstMisfit start edits before chunk)
    (first' : FirstMisfit start edits before' chunk') : before = before' ∧ chunk = chunk' := by
  have same : before ++ [append chunk] = before' ++ [append chunk'] := by
    rcases List.prefix_or_prefix_of_prefix first.next first'.next with inside | inside
    · exact first.eq_of_prefix first' inside
    · exact (first'.eq_of_prefix first inside).symm
  obtain ⟨rfl, last⟩ := List.append_inj' same rfl
  exact ⟨rfl, Edit.append.inj (List.singleton_inj.1 last)⟩

theorem exists_firstMisfit (misfit : ¬Fit start edits) :
    ∃ before chunk, FirstMisfit start edits before chunk := by
  induction edits using List.reverseRecOn with
  | nil => exact absurd (fit_nil start) misfit
  | append_singleton edits edit ih =>
    by_cases fit : Fit start edits
    case neg =>
      obtain ⟨before, chunk, first⟩ := ih fit
      exact ⟨before, chunk, { first with next := first.next.trans (List.prefix_append _ _) }⟩
    case pos =>
      -- Then it is the last edit that does not fit, and that cannot be a clearing.
      have beyond := fun within => misfit (fit_concat.2 ⟨fit, within⟩)
      cases edit with
      | clear => exact absurd (by rw [kept_concat]; exact Nat.zero_le _) beyond
      | append chunk =>
        rw [kept_concat_append] at beyond
        exact ⟨edits, chunk, List.prefix_refl _, fit, Nat.not_le.1 beyond⟩

/-- The run halts exactly when there is a first chunk that does not fit. -/
theorem makeAll_eq_error_iff {defect : Defect} : makeAll start edits = .error defect ↔
    defect = .payloadOverflow ∧ ∃ before chunk, FirstMisfit start edits before chunk := by
  constructor
  · intro halted
    refine ⟨eq_overflow_of_makeAll halted, exists_firstMisfit fun fit => ?_⟩
    obtain ⟨made, all, _⟩ := fit.exists_made
    exact nomatch all.symm.trans halted
  · rintro ⟨rfl, before, chunk, first⟩
    cases run : makeAll start edits with
    | ok made => exact absurd (makeAll_eq_ok_iff.1 run).1 first.not_fit
    | error defect => rw [eq_overflow_of_makeAll run]

/-- In front of the first misfit all edits before it have been made, and the chunk is refused. -/
theorem FirstMisfit.exists_reached (first : FirstMisfit start edits before chunk) :
    ∃ reached, makeAll start before = .ok reached ∧
      reached.bytes = (kept start before).flatten ∧
      reached.append chunk = .error .payloadOverflow := by
  obtain ⟨reached, made, bytes⟩ := first.fit.exists_made
  exact ⟨reached, made, bytes, append_eq_error_iff.2 ⟨rfl, bytes ▸ first.misfit⟩⟩

end Edit

/-! ## Serializations -/

/-- What the serializers do to a payload. -/
inductive Serialization where
  | clear
  /-- Half a byte for a character display, on the upper lines, with the signals below it. -/
  | half (value : UInt8)
  /-- A byte for a character display. -/
  | byte (value signals : UInt8)
  | setup (lit : Bool)
  | frame (grid : Text.Grid) (lit : Bool)
  /-- Commands for a bitmap panel. -/
  | commands (codes : List UInt8)
  | opening (lit : Bool)
  | row (font : Glyph.Font) (cells : Text.Row)
  deriving DecidableEq, Repr

namespace Serialization

/-- Whether what the payload held before goes. -/
def clears : Serialization → Bool
  | clear | frame .. | row .. => true
  | half .. | byte .. | setup .. | commands .. | opening .. => false

/-- The chunks that are added, in their order. -/
def chunks : Serialization → List Chunk
  | clear => []
  | half value => [Lcd.strobe value]
  | byte value signals => Lcd.byte value signals
  | setup lit => Lcd.setup lit
  | frame grid lit => Lcd.frame grid lit
  | commands codes => Oled.commandChunks codes
  | opening lit => Oled.opening lit
  | row font cells => Oled.rowChunks font cells

/-- Serializes into a payload. -/
def run (payload : Payload) (task : Serialization) : Except Defect Payload :=
  (if task.clears then .empty else payload).appendAll task.chunks

/-- One serialization after the other, into the same payload. -/
def runAll (payload : Payload) (tasks : List Serialization) : Except Defect Payload :=
  tasks.foldlM run payload

/-- The edits of a serialization. -/
def edits (task : Serialization) : List Edit :=
  (if task.clears then [.clear] else []) ++ task.chunks.map .append

/-- What a chunk can be. -/
inductive Piece : Chunk → Prop where
  /-- Three writes that clock half a byte in. -/
  | strobe (value : UInt8) : Piece [value, value ||| 0x04, value]
  /-- A command behind its control byte. -/
  | command (code : UInt8) : Piece [0x80, code]
  /-- The control byte in front of pixel data. -/
  | marker : Piece [0x40]
  /-- One page of a glyph, seven or eight columns. -/
  | glyph (font : Glyph.Font) (character : UInt8) (page : Nat) : Piece (font.page character page)
  /-- A blank column. -/
  | blank : Piece [0]

/-! ## Their chunks -/

theorem piece_byte (value signals : UInt8) : ∀ chunk ∈ Lcd.byte value signals, Piece chunk := by
  intro chunk half
  rcases List.mem_cons.1 half with rfl | low
  · exact .strobe _
  · rw [List.mem_singleton.1 low]
    exact .strobe _

theorem piece_bytes (values : List UInt8) (signals : UInt8) :
    ∀ chunk ∈ values.flatMap (Lcd.byte · signals), Piece chunk := by
  intro chunk inside
  obtain ⟨value, _, inside⟩ := List.mem_flatMap.1 inside
  exact piece_byte value signals chunk inside

theorem piece_commands (codes : List UInt8) :
    ∀ chunk ∈ Oled.commandChunks codes, Piece chunk := by
  intro chunk inside
  obtain ⟨code, _, rfl⟩ := List.mem_map.1 inside
  exact .command code

theorem piece_page (font : Glyph.Font) (cells : Text.Row) (page : Nat) :
    ∀ chunk ∈ Oled.pageChunks font cells page, Piece chunk := by
  intro chunk inside
  rcases List.mem_append.1 inside with drawn | blank
  · obtain ⟨character, _, rfl⟩ := List.mem_map.1 drawn
    exact .glyph font character page
  · rw [List.eq_of_mem_replicate blank]
    exact .blank

theorem piece_of_mem_chunks (task : Serialization) : ∀ chunk ∈ task.chunks, Piece chunk := by
  intro chunk inside
  cases task with
  | clear => exact nomatch inside
  | half value =>
    rw [List.mem_singleton.1 inside]
    exact .strobe value
  | byte value signals => exact piece_byte value signals chunk inside
  | setup lit => exact piece_bytes _ _ chunk inside
  | frame grid lit =>
    obtain ⟨row, _, inside⟩ := List.mem_flatMap.1 inside
    rcases List.mem_append.1 inside with address | cells
    · exact piece_byte _ _ chunk address
    · exact piece_bytes _ _ chunk cells
  | commands codes => exact piece_commands codes chunk inside
  | opening lit =>
    rcases List.mem_append.1 inside with commands | marker
    · rcases List.mem_append.1 commands with window | power
      · exact piece_commands _ chunk window
      · exact piece_commands _ chunk power
    · rw [List.mem_singleton.1 marker]
      exact .marker
  | row font cells =>
    rcases List.mem_append.1 inside with upper | lower
    · exact piece_page font cells 0 chunk upper
    · exact piece_page font cells 1 chunk lower

/-! ## As edits -/

theorem run_eq (payload : Payload) (task : Serialization) :
    task.run payload = Edit.makeAll payload task.edits := by
  unfold run edits
  split
  case isTrue => exact (Edit.makeAll_appends .empty task.chunks).symm
  case isFalse => exact (Edit.makeAll_appends payload task.chunks).symm

theorem runAll_eq (payload : Payload) (tasks : List Serialization) :
    runAll payload tasks = Edit.makeAll payload (tasks.flatMap edits) := by
  induction tasks generalizing payload with
  | nil => rfl
  | cons task tasks ih =>
    have first : runAll payload (task :: tasks) = (run payload task).bind (runAll · tasks) := rfl
    rw [first, List.flatMap_cons, Edit.makeAll_append, run_eq]
    congr 1
    funext reached
    exact ih reached

/-! ## When they fit -/

/-- A serialization fits exactly when all of its chunks fit together. -/
theorem exists_run_iff (payload : Payload) (task : Serialization) :
    (∃ filled, task.run payload = .ok filled) ↔
      (if task.clears then 0 else payload.length) + task.chunks.flatten.length ≤ 256 := by
  have base : (if task.clears then Payload.empty else payload).bytes.length =
      if task.clears then 0 else payload.length := by
    split <;> rfl
  rw [← base, ← List.length_append]
  constructor
  · rintro ⟨filled, ran⟩
    rw [← Payload.appendAll_eq_ok_iff.1 ran]
    exact filled.length_le
  · intro fits
    exact ⟨_, Payload.appendAll_of_le fits⟩

/-- The commands that fill an empty payload, and one more. -/
example : ((commands (List.replicate 128 0xe3)).run .empty).isOk = true ∧
    ((commands (List.replicate 129 0xe3)).run .empty).isOk = false := by
  decide +kernel

theorem run_frame (payload : Payload) (grid : Text.Grid) (lit : Bool) :
    (frame grid lit).run payload = .ok (Lcd.framePayload grid lit) :=
  Payload.appendAll_eq_ok_iff.2 rfl

theorem run_row (payload : Payload) (font : Glyph.Font) (cells : Text.Row) :
    (row font cells).run payload = .ok (Oled.rowPayload font cells) :=
  Payload.appendAll_eq_ok_iff.2 rfl

end Serialization

namespace Oled

/-- The chunks of a row up to the blanks of a page. -/
def drawn (font : Glyph.Font) (cells : Text.Row) (page : Nat) : List Chunk :=
  (List.range page).flatMap (pageChunks font cells) ++ cells.toList.map (font.page · page)

/--
The blanks of a page can be counted on the payload: it has not gone past the edge of the page, and
they are as many as are missing to it.
-/
theorem exists_drawn (font : Glyph.Font) (cells : Text.Row) {page : Nat} (inside : page < 2) :
    ∃ payload, Payload.ofChunks (drawn font cells page) = .ok payload ∧
      payload.length ≤ 128 * (page + 1) ∧
      pageChunks font cells page = cells.toList.map (font.page · page) ++
        List.replicate (128 * (page + 1) - payload.length) [0] := by
  have pages := length_flatten_flatMap (length_flatten_pageChunks font cells) (List.range page)
  have within : (drawn font cells page).flatten.length ≤ 128 * (page + 1) := by
    rw [drawn, List.flatten_append]
    exact length_drawn_le font cells page
  have fits : (drawn font cells page).flatten.length ≤ Payload.capacity := by
    unfold Payload.capacity
    omega
  refine ⟨_, Payload.ofChunks_of_le fits, within, ?_⟩
  show _ ++ List.replicate (128 - _) _ =
    _ ++ List.replicate (128 * (page + 1) - (drawn font cells page).flatten.length) _
  rw [drawn, List.flatten_append, List.length_append, pages, List.length_range]
  congr 2
  unfold width
  omega

end Oled

namespace Serialization

open Edit

/--
**What is serialized goes in whole, up to the first chunk that does not fit.** Let any serializations
be made, one after the other, from any payload on. They come through exactly when there are never more
than 256 bytes, and then the payload holds the chunks since the last clearing, in their order, and
nothing else. Otherwise there is exactly one chunk that is the first not to fit. The same is true of
the payload up to that chunk, and there the run halts, with a payload overflow and no other defect. A
single serialization comes through exactly when its chunks fit together; a frame and a row do, whatever
the payload held before. The blanks of a row can be counted on the payload, and every chunk is one of
five kinds.
-/
theorem halts_at_first_misfit (start : Payload) (tasks : List Serialization) :
    (∀ payload, runAll start tasks = .ok payload ↔ Fit start (tasks.flatMap edits) ∧
      payload.bytes = (kept start (tasks.flatMap edits)).flatten) ∧
    (∀ payload, runAll start tasks = .ok payload →
      (∀ chunks : List Chunk, tasks.flatMap edits = chunks.map .append →
        payload.bytes = start.bytes ++ chunks.flatten) ∧
      ∀ (before : List Edit) (chunks : List Chunk),
        tasks.flatMap edits = before ++ .clear :: chunks.map .append →
          payload.bytes = chunks.flatten) ∧
    (∀ defect, runAll start tasks = .error defect ↔ defect = .payloadOverflow ∧
      ∃ before chunk, FirstMisfit start (tasks.flatMap edits) before chunk) ∧
    (∀ defect, runAll start tasks = .error defect → defect.message = "transfer buffer overflow") ∧
    runAll start tasks = makeAll start (tasks.flatMap edits) ∧
    (∀ before chunk, FirstMisfit start (tasks.flatMap edits) before chunk →
      (∃ reached, makeAll start before = .ok reached ∧
        reached.bytes = (kept start before).flatten ∧
        reached.append chunk = .error .payloadOverflow) ∧
      ∀ before' chunk', FirstMisfit start (tasks.flatMap edits) before' chunk' →
        before = before' ∧ chunk = chunk') ∧
    (∀ task : Serialization, (∃ filled, task.run start = .ok filled) ↔
      (if task.clears then 0 else start.length) + task.chunks.flatten.length ≤ 256) ∧
    (∀ grid lit, ∃ payload, (frame grid lit).run start = .ok payload ∧
      payload.bytes = (Lcd.frame grid lit).flatten ∧ payload.length = 204) ∧
    (∀ font cells, (∃ payload, (row font cells).run start = .ok payload ∧
        payload.bytes = (Oled.rowChunks font cells).flatten ∧ payload.length = 256) ∧
      ∀ page < 2, ∃ payload, Payload.ofChunks (Oled.drawn font cells page) = .ok payload ∧
        payload.length ≤ 128 * (page + 1) ∧
        Oled.pageChunks font cells page = cells.toList.map (font.page · page) ++
          List.replicate (128 * (page + 1) - payload.length) [0]) ∧
    ∀ task ∈ tasks, ∀ chunk ∈ task.chunks, Piece chunk := by
  have alike := runAll_eq start tasks
  have through (payload : Payload) : runAll start tasks = .ok payload ↔
      Fit start (tasks.flatMap edits) ∧
        payload.bytes = (kept start (tasks.flatMap edits)).flatten := by
    rw [alike]
    exact makeAll_eq_ok_iff
  refine ⟨through, ?_, ?_, ?_, alike, ?_, exists_run_iff start, ?_, ?_,
    fun task _ => task.piece_of_mem_chunks⟩
  · intro payload ran
    have bytes := ((through payload).1 ran).2
    constructor
    · intro chunks all
      rw [bytes, all, kept_appends, List.flatten_cons]
    · intro before chunks last
      rw [bytes, last, kept_clear_appends]
  · intro defect
    rw [alike]
    exact makeAll_eq_error_iff
  · intro defect halted
    rw [eq_overflow_of_makeAll (alike.symm.trans halted)]
    rfl
  · intro before chunk first
    exact ⟨first.exists_reached, fun before' chunk' first' => first.unique first'⟩
  · intro grid lit
    exact ⟨_, run_frame start grid lit, rfl, Lcd.length_flatten_frame grid lit⟩
  · intro font cells
    refine ⟨⟨_, run_row start font cells, rfl, Oled.length_flatten_rowChunks font cells⟩, ?_⟩
    intro page inside
    exact Oled.exists_drawn font cells inside

/-- Commands that leave room for the first half of a byte, but not for the second. -/
def crowded : List Serialization := [commands (List.replicate 126 0xe3), half 0x49]

/-- The run halts within the byte, at 255 bytes, and never comes to the clearing behind it. -/
theorem halts_at_first_misfit_crowded :
    let tasks := [commands (List.replicate 126 0xe3), byte 0x48 0x09, clear]
    runAll .empty tasks = .error .payloadOverflow ∧
      FirstMisfit .empty (tasks.flatMap edits) (crowded.flatMap edits) (Lcd.strobe 0x89) ∧
      ∃ reached, makeAll .empty (crowded.flatMap edits) = .ok reached ∧ reached.length = 255 ∧
        reached.append (Lcd.strobe 0x89) = .error .payloadOverflow := by
  intro tasks
  obtain ⟨_, _, halts, _, _, only, _⟩ := halts_at_first_misfit .empty tasks
  have fit : Fit .empty (crowded.flatMap edits) := by
    have room : (runAll .empty crowded).isOk = true := by decide +kernel
    cases ran : runAll .empty crowded with
    | ok filled => exact (((halts_at_first_misfit .empty crowded).1 filled).1 ran).1
    | error defect =>
      rw [ran] at room
      exact nomatch room
  have first : FirstMisfit .empty (tasks.flatMap edits) (crowded.flatMap edits)
      (Lcd.strobe 0x89) :=
    { next := by decide +kernel
      fit
      misfit := by decide +kernel }
  obtain ⟨⟨reached, made, bytes, refused⟩, _⟩ := only _ _ first
  refine ⟨(halts _).2 ⟨rfl, _, _, first⟩, first, reached, made, ?_, refused⟩
  rw [Payload.length, bytes]
  decide +kernel

end Serialization

end StatusDisplay
