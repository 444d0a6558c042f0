import Ysqlite3.Vfs.Wrapper.Forward

/-!
# Calls on a wrapped VFS

The files of a process are of a class derived from `SQLite3_file_wrapper`. SQLite opens and closes them
in any number and calls the methods of the tables it finds in them.
-/

namespace Ysqlite3.Vfs.Wrapper

variable {σ : Type}

/-- A call on the parent's file in `block`. -/
def Event.OnFile (block : Nat) : Event → Prop
  | .file block' _ _ => block' = block
  | _ => False

/-- A call on the parent VFS other than `xOpen`. -/
def Event.OnVfs : Event → Prop
  | .vfs _ _ => True
  | _ => False

/-- From `s` to `s'` only events that satisfy `p` happen, and no file is opened or closed. -/
def Adds (p : Event → Prop) (s s' : Process σ) : Prop :=
  ∃ added, (∀ e ∈ added, p e) ∧
    s' = { s with parent := s'.parent, memory := s'.memory, trace := s.trace ++ added }

theorem Adds.refl (p : Event → Prop) (s : Process σ) : Adds p s s :=
  ⟨[], fun e he => absurd he List.not_mem_nil, by rw [List.append_nil]⟩

/-- A class derived from `SQLite3_file_wrapper` that inherits `close`. Its other functions work on the
parent's file; members of its own are part of `σ`. -/
structure DerivedFile (σ : Type) where
  call : SQLite3FileWrapper → (m : IoMethod) → m.Args → Run σ m.Reply
  adds : ∀ self m args s, (call self m args s).Ends (Adds (Event.OnFile self.block) s)

theorem FileMethods.adds (P : Parent σ) (self : SQLite3FileWrapper) (m : IoMethod) (args : m.Args)
    (s : Process σ) : (FileMethods.call P self m args s).Ends (Adds (Event.OnFile self.block) s) := by
  rcases hrequest : FileMethods.request self m args with - | args'
  · obtain ⟨reply, hcall, -⟩ := FileMethods.call_of_no_request (P := P) hrequest s
    rw [hcall]
    exact Adds.refl _ s
  · by_cases hhas : self.pMethods.has m = true
    · obtain ⟨memory, hcall⟩ := FileMethods.call_of_request (P := P) hrequest hhas s
      rw [hcall]
      exact ⟨[.file self.block m args'], by simp [Event.OnFile], rfl⟩
    · rw [FileMethods.call_of_absent hrequest hhas]
      trivial

theorem VFSMethods.adds (P : Parent σ) (m : VfsMethod) (args : m.Args) (s : Process σ) :
    (VFSMethods.call P m args s).Ends (Adds Event.OnVfs s) := by
  rcases hrequest : VFSMethods.request m args with - | args'
  · obtain ⟨reply, hcall, -⟩ := VFSMethods.call_of_no_request (P := P) hrequest s
    rw [hcall]
    exact Adds.refl _ s
  · by_cases hhas : P.table.has m.target = true
    · obtain ⟨memory, hcall⟩ := VFSMethods.call_of_request hrequest hhas s
      rw [hcall]
      exact ⟨[.vfs m.target args'], by simp [Event.OnVfs], rfl⟩
    · rw [VFSMethods.call_of_absent hrequest hhas]
      trivial

/-- `SQLite3_file_wrapper` itself. -/
def plain (P : Parent σ) : DerivedFile σ where
  call := FileMethods.call P
  adds := FileMethods.adds P

/-- A call of SQLite. It opens a file in memory without methods; calls on a file are made while it has
methods. -/
inductive WrapperCall where
  | xOpen (file : Nat) (name : Option Bytes) (flags : Int32) (allocations : Allocations)
  | xClose (file : Nat)
  | vfs (m : VfsMethod) (args : m.Args)
  | file (file : Nat) (m : IoMethod) (args : m.Args)

namespace Process

/-- The process after a function of a table, which no exception must leave. -/
def settle {α : Type} (s : Process σ) : Outcome (Process σ) α → Process σ
  | .returns _ s' => s'
  | .throws _ s' => { s' with crashed := true }
  | .undefined => { s with crashed := true }

/-- A process that has crashed takes no step. SQLite forgets the methods of a file it has closed. -/
def step (P : Parent σ) (D : DerivedFile σ) (s : Process σ) (call : WrapperCall) : Process σ :=
  if s.crashed then s
  else match call with
    | .xOpen file name flags allocations =>
      match s.files file with
      | some _ => s
      | none => s.settle (VFSMethods.open P allocations name file flags s)
    | .xClose file =>
      match s.files file with
      | none => s
      | some self => (s.settle (FileMethods.close P self s)).place file none
    | .vfs m args => s.settle (VFSMethods.call P m args s)
    | .file file m args =>
      match s.files file with
      | none => s
      | some self => s.settle (D.call self m args s)

end Process

/-- The process under the calls of SQLite. -/
def process (P : Parent σ) (D : DerivedFile σ) : Component (Process σ) WrapperCall Unit where
  step s call := ((), s.step P D call)

/-! ## Opening -/

section Opening

variable {P : Parent σ} {s : Process σ} {name : Option Bytes} {file : Nat} {flags : Int32}
  {allocations : Allocations} {format : FileFormat} {outFlags : Option Int32} {parent : σ}

/-- The process after the memory of the file is cleared. -/
def cleared (file : Nat) (s : Process σ) : Process σ := { s.place file none with outFlags := none }

/-- The process after the parent's `xOpen` in a new block, with what has happened since. -/
def asked (name : Option Bytes) (file : Nat) (flags : Int32) (outFlags : Option Int32) (parent : σ)
    (since : List Event) (s : Process σ) : Process σ :=
  { s.place file none with
    parent
    outFlags
    blocks := s.blocks + 1
    trace := s.trace ++ .allocated s.blocks :: .xOpen name s.blocks flags :: since }

/-- The code that an exception becomes. -/
def codeOf : Exception → SQLite3Code
  | .systemError _ value _ => value
  | .other => .generic

theorem open_of_bad_format (hformat : formatOf flags = none) :
    VFSMethods.open P allocations name file flags s =
      .returns { code := .misuse, outFlags := none, pMethods := none } (cleared file s) := by
  simp [VFSMethods.open, VFSMethods.caught, hformat, cleared, Process.place]

theorem open_of_no_memory (hformat : formatOf flags = some format) (hmemory : ¬ allocations.memory = true) :
    VFSMethods.open P allocations name file flags s =
      .returns { code := .generic, outFlags := none, pMethods := none } (cleared file s) := by
  simp [VFSMethods.open, SQLite3VfsWrapper.open, SQLite3VfsWrapper.allocate, VFSMethods.caught, hformat,
    hmemory, cleared, Process.place]

section Asked

variable (hformat : formatOf flags = some format) (hmemory : allocations.memory = true)
include hformat hmemory

theorem open_of_refused {code : FailureCode} {pMethods : Option IoTable}
    (hopen : P.xOpen name s.blocks flags s.parent = ((.refused code pMethods, outFlags), parent)) :
    VFSMethods.open P allocations name file flags s =
      .returns { code, outFlags, pMethods := none }
        (asked name file flags outFlags parent [.freed s.blocks] s) := by
  simp [VFSMethods.open, SQLite3VfsWrapper.open, SQLite3VfsWrapper.allocate,
    SQLite3VfsWrapper.invokeOpen, VFSMethods.caught, Exception.sqlite3, hformat, hmemory, hopen, asked,
    Process.place, Process.free, Process.record]

theorem open_of_throws {e : Exception} {pMethods : IoTable}
    (hopen : P.xOpen name s.blocks flags s.parent = ((.opened pMethods, outFlags), parent))
    (hfile : allocations.file = some e) :
    VFSMethods.open P allocations name file flags s =
      .returns { code := codeOf e, outFlags, pMethods := none }
        (asked name file flags outFlags parent [.opened s.blocks, .freed s.blocks] s) := by
  cases e with
  | systemError category value what =>
    simp [VFSMethods.open, SQLite3VfsWrapper.open, SQLite3VfsWrapper.allocate,
      SQLite3VfsWrapper.invokeOpen, SQLite3VfsWrapper.construct, VFSMethods.caught, hformat, hmemory,
      hopen, hfile, asked, Process.place, Process.free, Process.record, codeOf]
  | other =>
    simp [VFSMethods.open, SQLite3VfsWrapper.open, SQLite3VfsWrapper.allocate,
      SQLite3VfsWrapper.invokeOpen, SQLite3VfsWrapper.construct, VFSMethods.caught, hformat, hmemory,
      hopen, hfile, asked, Process.place, Process.free, Process.record, codeOf]

theorem open_of_opened {pMethods : IoTable}
    (hopen : P.xOpen name s.blocks flags s.parent = ((.opened pMethods, outFlags), parent))
    (hfile : allocations.file = none) :
    VFSMethods.open P allocations name file flags s =
      .returns { code := .success, outFlags, pMethods := some .full }
        ((asked name file flags outFlags parent [.opened s.blocks, .constructed s.blocks] s).place file
          (some { name, format, block := s.blocks, pMethods })) := by
  simp [VFSMethods.open, SQLite3VfsWrapper.open, SQLite3VfsWrapper.allocate,
    SQLite3VfsWrapper.invokeOpen, SQLite3VfsWrapper.construct, VFSMethods.caught, hformat, hmemory,
    hopen, hfile, asked, Process.place, Process.record]

end Asked

/-- What `open` can come to, in the order in which it can fail. -/
inductive Opening (P : Parent σ) (allocations : Allocations) (name : Option Bytes) (file : Nat)
    (flags : Int32) (s : Process σ) : OpenReply → Process σ → Prop where
  | badFormat (hformat : formatOf flags = none) :
    Opening P allocations name file flags s { code := .misuse, outFlags := none, pMethods := none }
      (cleared file s)
  | noMemory {format : FileFormat} (hformat : formatOf flags = some format)
    (hmemory : ¬ allocations.memory = true) :
    Opening P allocations name file flags s { code := .generic, outFlags := none, pMethods := none }
      (cleared file s)
  | refused {format : FileFormat} {code : FailureCode} {pMethods : Option IoTable}
    {outFlags : Option Int32} {parent : σ} (hformat : formatOf flags = some format)
    (hmemory : allocations.memory = true)
    (hopen : P.xOpen name s.blocks flags s.parent = ((.refused code pMethods, outFlags), parent)) :
    Opening P allocations name file flags s { code, outFlags, pMethods := none }
      (asked name file flags outFlags parent [.freed s.blocks] s)
  | throws {format : FileFormat} {e : Exception} {pMethods : IoTable} {outFlags : Option Int32}
    {parent : σ} (hformat : formatOf flags = some format)
    (hmemory : allocations.memory = true)
    (hopen : P.xOpen name s.blocks flags s.parent = ((.opened pMethods, outFlags), parent))
    (hfile : allocations.file = some e) :
    Opening P allocations name file flags s { code := codeOf e, outFlags, pMethods := none }
      (asked name file flags outFlags parent [.opened s.blocks, .freed s.blocks] s)
  | opened {format : FileFormat} {pMethods : IoTable} {outFlags : Option Int32} {parent : σ}
    (hformat : formatOf flags = some format)
    (hmemory : allocations.memory = true)
    (hopen : P.xOpen name s.blocks flags s.parent = ((.opened pMethods, outFlags), parent))
    (hfile : allocations.file = none) :
    Opening P allocations name file flags s { code := .success, outFlags, pMethods := some .full }
      ((asked name file flags outFlags parent [.opened s.blocks, .constructed s.blocks] s).place file
        (some { name, format, block := s.blocks, pMethods }))

theorem open_spec (P : Parent σ) (allocations : Allocations) (name : Option Bytes) (file : Nat)
    (flags : Int32) (s : Process σ) : ∃ reply s',
      VFSMethods.open P allocations name file flags s = .returns reply s' ∧
        Opening P allocations name file flags s reply s' := by
  rcases hformat : formatOf flags with - | format
  · exact ⟨_, _, open_of_bad_format hformat, .badFormat hformat⟩
  by_cases hmemory : allocations.memory = true
  · rcases hopen : P.xOpen name s.blocks flags s.parent with
      ⟨⟨pMethods | ⟨code, pMethods⟩, outFlags⟩, parent⟩
    · rcases hfile : allocations.file with - | e
      · exact ⟨_, _, open_of_opened hformat hmemory hopen hfile, .opened hformat hmemory hopen hfile⟩
      · exact ⟨_, _, open_of_throws hformat hmemory hopen hfile, .throws hformat hmemory hopen hfile⟩
    · exact ⟨_, _, open_of_refused hformat hmemory hopen, .refused hformat hmemory hopen⟩
  · exact ⟨_, _, open_of_no_memory hformat hmemory, .noMemory hformat hmemory⟩

/-! ## Closing -/

/-- `xClose` is called on the parent's file once, whatever comes of it; then its memory is freed and the
object deleted. -/
theorem close_eq (self : SQLite3FileWrapper) :
    FileMethods.close P self s =
      .returns (P.xClose self.block s.parent).1
        { s with
          parent := (P.xClose self.block s.parent).2
          trace := s.trace ++ [.xClose self.block, .freed self.block, .deleted self.block] } := by
  simp [FileMethods.close, SQLite3FileWrapper.close, SQLite3FileWrapper.invokeClose, Process.free,
    Process.delete, Process.record]

end Opening

/-! ## Steps -/

/-- What a call can do. Nothing happens once the process has crashed, when a file is opened that is open
already, and when a call is on one that is not. -/
inductive Step (P : Parent σ) (D : DerivedFile σ) (s : Process σ) :
    WrapperCall → Process σ → Prop where
  | idle (call : WrapperCall) : Step P D s call s
  | opening {file : Nat} {name : Option Bytes} {flags : Int32} {allocations : Allocations}
    {reply : OpenReply} {s' : Process σ} (hruns : s.crashed = false) (hfree : s.files file = none)
    (hopening : Opening P allocations name file flags s reply s') :
    Step P D s (.xOpen file name flags allocations) s'
  | closing {file : Nat} {self : SQLite3FileWrapper} (hself : s.files file = some self) :
    Step P D s (.xClose file) (Process.place file none { s with
      parent := (P.xClose self.block s.parent).2
      trace := s.trace ++ [.xClose self.block, .freed self.block, .deleted self.block] })
  | vfs (m : VfsMethod) (args : m.Args) :
    Step P D s (.vfs m args) (s.settle (VFSMethods.call P m args s))
  | file {file : Nat} {self : SQLite3FileWrapper} (hself : s.files file = some self) (m : IoMethod)
    (args : m.Args) : Step P D s (.file file m args) (s.settle (D.call self m args s))

section Steps

variable {P : Parent σ} {D : DerivedFile σ} {s : Process σ}

theorem next_of_crashed (hcrashed : s.crashed = true) (call : WrapperCall) :
    (process P D).next s call = s :=
  if_pos hcrashed

theorem next_eq (hruns : s.crashed = false) (call : WrapperCall) : (process P D).next s call =
    match call with
    | .xOpen file name flags allocations =>
      match s.files file with
      | some _ => s
      | none => s.settle (VFSMethods.open P allocations name file flags s)
    | .xClose file =>
      match s.files file with
      | none => s
      | some self => (s.settle (FileMethods.close P self s)).place file none
    | .vfs m args => s.settle (VFSMethods.call P m args s)
    | .file file m args =>
      match s.files file with
      | none => s
      | some self => s.settle (D.call self m args s) := by
  have hrun : ¬ s.crashed = true := by rw [hruns]; exact Bool.false_ne_true
  exact if_neg hrun

/-- A file is opened in memory without methods. -/
theorem next_xOpen (hruns : s.crashed = false) {file : Nat} (hfree : s.files file = none)
    (name : Option Bytes) (flags : Int32) (allocations : Allocations) : ∃ reply s',
      (process P D).next s (.xOpen file name flags allocations) = s' ∧
        Opening P allocations name file flags s reply s' := by
  obtain ⟨reply, s', hopen, hopening⟩ := open_spec P allocations name file flags s
  refine ⟨reply, s', ?_, hopening⟩
  rw [next_eq hruns]
  simp only [hfree, hopen]
  rfl

theorem next_step (s : Process σ) (call : WrapperCall) :
    Step P D s call ((process P D).next s call) := by
  by_cases hcrashed : s.crashed = true
  · rw [next_of_crashed hcrashed]
    exact .idle call
  · have hruns : s.crashed = false := Bool.eq_false_iff.mpr hcrashed
    cases call with
    | xOpen file name flags allocations =>
      rcases hfile : s.files file with - | self
      · obtain ⟨reply, s', hnext, hopening⟩ :=
          next_xOpen (P := P) (D := D) hruns hfile name flags allocations
        rw [hnext]
        exact .opening hruns hfile hopening
      · rw [next_eq hruns]
        simp only [hfile]
        exact .idle _
    | xClose file =>
      rw [next_eq hruns]
      rcases hfile : s.files file with - | self
      · simp only [hfile]
        exact .idle _
      · simp only [hfile, close_eq]
        exact .closing hfile
    | vfs m args =>
      rw [next_eq hruns]
      exact .vfs m args
    | file file m args =>
      rw [next_eq hruns]
      rcases hfile : s.files file with - | self
      · simp only [hfile]
        exact .idle _
      · simp only [hfile]
        exact .file hfile m args

end Steps

/-- A function that opens and closes nothing leaves the files as they are, however it ends. -/
theorem files_settle {α : Type} {p : Event → Prop} {s : Process σ} {outcome : Outcome (Process σ) α}
    (h : outcome.Ends (Adds p s)) : (s.settle outcome).files = s.files := by
  cases outcome with
  | returns a s' =>
    obtain ⟨added, -, heq⟩ := h
    rw [Process.settle, heq]
  | throws e s' =>
    obtain ⟨added, -, heq⟩ := h
    rw [Process.settle, heq]
  | undefined => rfl

end Ysqlite3.Vfs.Wrapper
