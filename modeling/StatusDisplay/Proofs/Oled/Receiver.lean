import StatusDisplay.Oled.Stream

/-!
# The receiver of a bitmap panel

What a panel makes of a transaction. Control bytes tell commands from pixel data (`decode`). A
command is carried out once its arguments are there; pixel data goes where the pointers say, and the
pointers run through the window that the commands have set. The memory holds 64 pixel rows; a panel
with fewer shows the first of them.
-/

namespace StatusDisplay.Oled

/-! ## Control bytes -/

/--
The commands of a transaction and its pixel data. A control byte that is neither of the two makes it
no transaction at all.
-/
def decode : List UInt8 → Option (List UInt8 × List UInt8)
  | [] => some ([], [])
  | marker :: bytes =>
    if marker = dataMarker then some ([], bytes)
    else if marker = commandMarker then
      match bytes with
      | [] => none
      | command :: rest => (decode rest).map fun (commands, data) => (command :: commands, data)
    else none

/-! ## Commands -/

/--
Arguments that follow a command, each a command byte of its own. Only commands that the driver sends
are looked at.
-/
def argumentCount (opcode : UInt8) : Nat :=
  if opcode ∈ [Command.columnWindow, Command.pageWindow] then 2
  else if opcode ∈ [Command.memoryMode, Command.contrast, Command.chargePump,
      Command.multiplexRatio, Command.displayOffset, Command.clockDivide, Command.precharge,
      Command.commonPins, Command.deselectLevel] then 1
  else 0

/-- The order in which pixel data fills the memory. -/
inductive Filling where
  /-- Through the columns of a page, then on to the next page. -/
  | horizontal
  /-- Through the pages of a column, then on to the next column. -/
  | vertical
  /-- Through the columns of one page, over and over. -/
  | paged
  deriving DecidableEq, Repr

/-- The order that an argument of `Command.memoryMode` selects. -/
def Filling.ofMode (mode : UInt8) : Filling :=
  if mode &&& 0x03 = 0 then horizontal else if mode &&& 0x03 = 1 then vertical else paged

/-- The first and the last place that data fills, in one direction. -/
structure Span (size : Nat) where
  first : BitVec size
  last : BitVec size
  deriving DecidableEq, Repr

/-- The next place; behind the last one comes the first one. -/
def Span.next {size : Nat} (span : Span size) (place : BitVec size) : BitVec size :=
  if place = span.last then span.first else place + 1

/-! ## The panel -/

/-- A bitmap panel: its memory, and how it has been set. -/
structure Receiver where
  /-- Memory by page and column, the topmost pixel of a page in the lowest bit. -/
  memory : BitVec 3 → BitVec 7 → UInt8
  columns : Span 7
  pages : Span 3
  column : BitVec 7
  page : BitVec 3
  filling : Filling
  on : Bool
  /-- A command whose arguments are not all there yet, and those that are. -/
  pending : List UInt8

namespace Receiver

/-- Carries out a command. What does not concern memory, pointers or power is passed over. -/
def execute (panel : Receiver) (opcode : UInt8) : (arguments : List UInt8) → Receiver
  | [] =>
    if opcode = Command.displayOn then { panel with on := true }
    else if opcode = Command.displayOff then { panel with on := false }
    else panel
  | [mode] =>
    if opcode = Command.memoryMode then { panel with filling := .ofMode mode } else panel
  | [first, last] =>
    if opcode = Command.columnWindow then
      let columns : Span 7 := ⟨first.toBitVec.setWidth 7, last.toBitVec.setWidth 7⟩
      { panel with columns, column := columns.first }
    else if opcode = Command.pageWindow then
      let pages : Span 3 := ⟨first.toBitVec.setWidth 3, last.toBitVec.setWidth 3⟩
      { panel with pages, page := pages.first }
    else panel
  | _ => panel

/-- The next command byte: a command of its own, or an argument of the one that is waiting. -/
def takeCommand (panel : Receiver) (byte : UInt8) : Receiver :=
  match panel.pending ++ [byte] with
  | [] => panel
  | opcode :: arguments =>
    if argumentCount opcode ≤ arguments.length then
      { panel.execute opcode arguments with pending := [] }
    else { panel with pending := opcode :: arguments }

/-- The pointers one place further on. -/
def advance (panel : Receiver) : Receiver :=
  match panel.filling with
  | .horizontal =>
    { panel with
      column := panel.columns.next panel.column
      page := if panel.column = panel.columns.last then panel.pages.next panel.page else panel.page }
  | .vertical =>
    { panel with
      page := panel.pages.next panel.page
      column :=
        if panel.page = panel.pages.last then panel.columns.next panel.column else panel.column }
  | .paged => { panel with column := panel.column + 1 }

/-- Stores eight pixels where the pointers say. -/
def put (panel : Receiver) (byte : UInt8) : Receiver :=
  { panel with
    memory := fun page column =>
      if page = panel.page ∧ column = panel.column then byte else panel.memory page column }

/-- The next byte of pixel data. -/
def takeData (panel : Receiver) (byte : UInt8) : Receiver := (panel.put byte).advance

/-- A whole transaction; bytes that are none leave no panel to speak of. -/
def transact (panel : Receiver) (bytes : List UInt8) : Option Receiver :=
  (decode bytes).map fun (commands, data) =>
    data.foldl takeData (commands.foldl takeCommand panel)

/-- Whether pixel (`x`, `y`) is lit in memory; the first row is the topmost. -/
def pixel (panel : Receiver) (x y : Nat) : Bool :=
  (panel.memory (.ofNat 3 (y / Glyph.pageHeight)) (.ofNat 7 x)).toBitVec.getLsbD
    (y % Glyph.pageHeight)

end Receiver

/-! ## Decoding -/

theorem decode_data (data : List UInt8) : decode (dataMarker :: data) = some ([], data) := by
  unfold decode
  exact if_pos rfl

theorem decode_command (command : UInt8) (rest : List UInt8) :
    decode (commandMarker :: command :: rest) =
      (decode rest).map fun (commands, data) => (command :: commands, data) := by
  rw [decode, if_neg (by decide), if_pos rfl]

/-- Commands, each behind its control byte, are decoded as they stand. -/
theorem decode_commands (commands : List UInt8) (rest : List UInt8) :
    decode ((commandChunks commands).flatten ++ rest) =
      (decode rest).map fun (later, data) => (commands ++ later, data) := by
  induction commands with
  | nil =>
    show decode rest = _
    cases decode rest <;> rfl
  | cons command commands ih =>
    have chunk : (commandChunks (command :: commands)).flatten ++ rest =
        commandMarker :: command :: ((commandChunks commands).flatten ++ rest) := rfl
    rw [chunk, decode_command, ih, Option.map_map]
    rfl

/-! ## Commands and their arguments -/

namespace Receiver

theorem execute_pending (panel : Receiver) (pending : List UInt8) (opcode : UInt8)
    (arguments : List UInt8) :
    execute { panel with pending } opcode arguments =
      { panel.execute opcode arguments with pending } := by
  unfold execute
  repeat' split
  all_goals rfl

theorem takeCommand_eq {panel : Receiver} {byte opcode : UInt8} {arguments : List UInt8}
    (gathered : panel.pending ++ [byte] = opcode :: arguments) :
    panel.takeCommand byte =
      if argumentCount opcode ≤ arguments.length then
        { panel.execute opcode arguments with pending := [] }
      else { panel with pending := opcode :: arguments } := by
  rw [takeCommand, gathered]

/-- A command waits for its arguments, and is carried out when the last of them is there. -/
theorem foldl_arguments (panel : Receiver) {opcode : UInt8} {arguments : List UInt8}
    (count : argumentCount opcode = arguments.length) {gathered rest : List UInt8}
    (parts : gathered ++ rest = opcode :: arguments) (more : rest ≠ []) :
    rest.foldl takeCommand { panel with pending := gathered } =
      { panel.execute opcode arguments with pending := [] } := by
  induction rest generalizing gathered with
  | nil => exact absurd rfl more
  | cons byte rest ih =>
    have parts' : (gathered ++ [byte]) ++ rest = opcode :: arguments := by
      rw [List.append_assoc]
      exact parts
    obtain ⟨given, here⟩ : ∃ given, gathered ++ [byte] = opcode :: given := by
      cases gathered with
      | nil => exact ⟨[], by rw [(List.cons.inj parts).1]; rfl⟩
      | cons first gathered => exact ⟨gathered ++ [byte], by rw [(List.cons.inj parts).1]; rfl⟩
    have later : given ++ rest = arguments := by
      rw [here] at parts'
      exact (List.cons.inj parts').2
    rw [List.foldl_cons, takeCommand_eq here]
    by_cases last : rest = []
    · rw [last, List.append_nil] at later
      rw [if_pos (Nat.le_of_eq (by rw [count, later])), last, later, execute_pending]
      rfl
    · have waits : ¬ argumentCount opcode ≤ given.length := by
        have some := List.length_pos_iff.2 last
        rw [count, ← later, List.length_append]
        omega
      rw [if_neg waits, ← here]
      exact ih parts' last

/-- Commands with their arguments are carried out one after the other. -/
theorem foldl_script {panel : Receiver} (whole : panel.pending = [])
    {script : List (UInt8 × List UInt8)}
    (counts : ∀ command ∈ script, argumentCount command.1 = command.2.length) :
    (script.flatMap fun command => command.1 :: command.2).foldl takeCommand panel =
      script.foldl (fun panel command => panel.execute command.1 command.2) panel := by
  induction script generalizing panel with
  | nil => rfl
  | cons command script ih =>
    obtain ⟨here, rest⟩ := List.forall_mem_cons.1 counts
    have idle : { panel with pending := [] } = panel := by rw [← whole]
    have carried := panel.foldl_arguments here (List.nil_append _) (List.cons_ne_nil _ _)
    have still := panel.execute_pending [] command.1 command.2
    rw [idle] at carried still
    rw [List.flatMap_cons, List.foldl_append, carried, ← still, List.foldl_cons]
    exact ih (by rw [still]) rest

end Receiver

end StatusDisplay.Oled
