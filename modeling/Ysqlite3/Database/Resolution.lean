import Ysqlite3.Database.Functions

/-!
# Which function a statement calls

A function is called by its name. Of the functions with this name that accept as many arguments, SQLite takes
one that is made for the number rather than one for any number, and then one that is made for the encoding of
the database; functions of its own come last.
-/

namespace Ysqlite3

/-! ## The search -/

/-- The bonus for the encoding in `matchQuality`. -/
def encodingBonus (enc : TextEncoding) (encoding : Nat) : Nat :=
  if enc.value = encoding then 2 else if enc.value &&& encoding &&& 2 ≠ 0 then 1 else 0

/-- `matchQuality` -/
def FunctionEntry.matchQuality (p : FunctionEntry) (nArg : Nat) (enc : TextEncoding) : Nat :=
  if p.key.argc ≠ nArg ∧ 0 ≤ p.key.argc then 0
  else (if p.key.argc = nArg then 4 else 1) + encodingBonus enc p.key.encoding

/-- The loops in `sqlite3FindFunction`, over the functions of one name. -/
def bestMatch (nArg : Nat) (enc : TextEncoding) : List FunctionEntry → Option FunctionEntry → Nat →
    Option FunctionEntry
  | [], pBest, _ => pBest
  | p :: pNext, pBest, bestScore =>
    let score := p.matchQuality nArg enc
    if bestScore < score then bestMatch nArg enc pNext (some p) score
    else bestMatch nArg enc pNext pBest bestScore

/-- `sqlite3FindFunction`, where nothing is to be created. `functions` and `builtin` are the functions of the
name, of the connection and of SQLite. -/
def findFunction (nArg : Nat) (enc : TextEncoding) (preferBuiltin : Bool)
    (functions builtin : List FunctionEntry) : Option FunctionEntry :=
  let pBest := bestMatch nArg enc functions none 0
  if pBest = none ∨ preferBuiltin = true then bestMatch nArg enc builtin pBest 0 else pBest

/-- The functions of the connection with a name, in the order in which they happen to be. -/
def FunctionTable.Functions (self : FunctionTable) (name : Bytes) (functions : List FunctionEntry) : Prop :=
  functions.Perm (self.entries.filter (fun entry => entry.key.name = name.map upperToLower))

/-- What the loop has found. -/
theorem bestMatch_cases (nArg : Nat) (enc : TextEncoding) (list : List FunctionEntry) :
    ∀ (pBest : Option FunctionEntry) (bestScore : Nat),
      bestMatch nArg enc list pBest bestScore = pBest ∧
          (∀ p ∈ list, p.matchQuality nArg enc ≤ bestScore) ∨
        ∃ p ∈ list, bestMatch nArg enc list pBest bestScore = some p ∧ bestScore < p.matchQuality nArg enc ∧
          ∀ p' ∈ list, p'.matchQuality nArg enc ≤ p.matchQuality nArg enc := by
  induction list with
  | nil => exact fun pBest bestScore => Or.inl ⟨rfl, fun p hp => nomatch hp⟩
  | cons p pNext ih =>
    intro pBest bestScore
    rw [bestMatch]
    by_cases hbetter : bestScore < p.matchQuality nArg enc
    · simp only [if_pos hbetter]
      right
      rcases ih (some p) (p.matchQuality nArg enc) with ⟨hsame, hle⟩ | ⟨best, hbest, hfound, hlt, hle⟩
      · exact ⟨p, List.mem_cons_self, hsame, hbetter, List.forall_mem_cons.mpr ⟨Nat.le_refl _, hle⟩⟩
      · exact ⟨best, List.mem_cons_of_mem p hbest, hfound, Nat.lt_trans hbetter hlt,
          List.forall_mem_cons.mpr ⟨Nat.le_of_lt hlt, hle⟩⟩
    · simp only [if_neg hbetter]
      have hworse : p.matchQuality nArg enc ≤ bestScore := Nat.le_of_not_lt hbetter
      rcases ih pBest bestScore with ⟨hsame, hle⟩ | ⟨best, hbest, hfound, hlt, hle⟩
      · exact Or.inl ⟨hsame, List.forall_mem_cons.mpr ⟨hworse, hle⟩⟩
      · exact Or.inr ⟨best, List.mem_cons_of_mem p hbest, hfound, hlt,
          List.forall_mem_cons.mpr ⟨Nat.le_of_lt (Nat.lt_of_le_of_lt hworse hlt), hle⟩⟩

/-! ## What is preferred -/

/-- A function of the key can be called with so many arguments. -/
def FunctionKey.Accepts (key : FunctionKey) (nArg : Nat) : Prop := key.argc = nArg ∨ key.argc = -1

/-- Of the functions under `keys` that accept the call, there is none that is more special than `key`. -/
structure FunctionKey.Preferred (keys : FunctionKey → Prop) (nArg : Nat) (enc : TextEncoding)
    (key : FunctionKey) : Prop where
  accepts : key.Accepts nArg
  argc : ∀ key', keys key' → key'.argc = nArg → key.argc = nArg
  encoding : ∀ key', keys key' → key'.argc = key.argc → key'.encoding = enc.value → key.encoding = enc.value
  utf16 : ∀ key', keys key' → key'.argc = key.argc → enc ≠ .utf8 → key'.encoding ≠ TextEncoding.utf8.value →
    key.encoding ≠ TextEncoding.utf8.value

/-- The key is one that a registration can make. -/
structure FunctionKey.Valid (key : FunctionKey) : Prop where
  argc_ge : -1 ≤ key.argc
  encoding : ∃ encoding : TextEncoding, key.encoding = encoding.value

variable {nArg : Nat} {enc : TextEncoding}

theorem encodingBonus_le (enc : TextEncoding) (encoding : Nat) : encodingBonus enc encoding ≤ 2 := by
  unfold encodingBonus
  split
  · exact Nat.le_refl 2
  · split <;> omega

theorem matchQuality_pos_iff {p : FunctionEntry} (h : p.key.Valid) :
    0 < p.matchQuality nArg enc ↔ p.key.Accepts nArg := by
  have hargc := h.argc_ge
  unfold FunctionEntry.matchQuality FunctionKey.Accepts
  by_cases hother : p.key.argc ≠ nArg ∧ 0 ≤ p.key.argc
  · rw [if_pos hother]
    omega
  · rw [if_neg hother]
    refine iff_of_true ?_ (by omega)
    split <;> omega

/-- The number of arguments counts for more than the encoding. -/
theorem matchQuality_lt_of_argc {p p' : FunctionEntry} (h : p.key.argc = nArg) (h' : p'.key.argc ≠ nArg) :
    p'.matchQuality nArg enc < p.matchQuality nArg enc := by
  have hbonus := encodingBonus_le enc p'.key.encoding
  have hexact : p.matchQuality nArg enc = 4 + encodingBonus enc p.key.encoding := by
    unfold FunctionEntry.matchQuality
    rw [if_neg (fun hother => hother.1 h), if_pos h]
  have hany : p'.matchQuality nArg enc ≤ 1 + encodingBonus enc p'.key.encoding := by
    unfold FunctionEntry.matchQuality
    rw [if_neg h']
    split <;> omega
  omega

theorem matchQuality_lt_of_encoding {p p' : FunctionEntry} (haccepts : p.key.Accepts nArg)
    (hargc : p.key.argc = p'.key.argc)
    (hlt : encodingBonus enc p'.key.encoding < encodingBonus enc p.key.encoding) :
    p'.matchQuality nArg enc < p.matchQuality nArg enc := by
  have hnot : ¬ (p.key.argc ≠ nArg ∧ 0 ≤ p.key.argc) := by
    unfold FunctionKey.Accepts at haccepts
    omega
  unfold FunctionEntry.matchQuality
  rw [← hargc, if_neg hnot, if_neg hnot]
  exact Nat.add_lt_add_left hlt _

/-- What has the highest quality is preferred. -/
theorem preferred_of_best {keys : FunctionKey → Prop} {p : FunctionEntry} (hpos : 0 < p.matchQuality nArg enc)
    (hvalid : p.key.Valid) (hkeys : ∀ key, keys key → key.Valid ∧
      ∃ p' : FunctionEntry, p'.key = key ∧ p'.matchQuality nArg enc ≤ p.matchQuality nArg enc) :
    p.key.Preferred keys nArg enc := by
  have haccepts := (matchQuality_pos_iff hvalid).mp hpos
  obtain ⟨encoding, hencoding⟩ := hvalid.encoding
  refine ⟨haccepts, ?_, ?_, ?_⟩
  · intro key hkey hargc
    obtain ⟨-, p', rfl, hle⟩ := hkeys key hkey
    by_contra hother
    exact absurd (matchQuality_lt_of_argc hargc hother) (Nat.not_lt.mpr hle)
  · intro key hkey hargc hexact
    obtain ⟨-, p', rfl, hle⟩ := hkeys key hkey
    by_contra hother
    have haccepts' : p'.key.Accepts nArg := by
      unfold FunctionKey.Accepts
      rwa [hargc]
    have hlt : encodingBonus enc p.key.encoding < encodingBonus enc p'.key.encoding := by
      unfold encodingBonus
      rw [if_neg (Ne.symm hother), if_pos hexact.symm]
      split <;> omega
    exact absurd (matchQuality_lt_of_encoding haccepts' hargc hlt) (Nat.not_lt.mpr hle)
  · intro key hkey hargc henc hother heq
    obtain ⟨hvalid', p', rfl, hle⟩ := hkeys key hkey
    obtain ⟨encoding', hencoding'⟩ := hvalid'.encoding
    have haccepts' : p'.key.Accepts nArg := by
      unfold FunctionKey.Accepts
      rwa [hargc]
    have hlt : encodingBonus enc p.key.encoding < encodingBonus enc p'.key.encoding := by
      rw [heq, hencoding']
      rw [hencoding'] at hother
      revert hother henc
      cases enc <;> cases encoding' <;> decide
    exact absurd (matchQuality_lt_of_encoding haccepts' hargc hlt) (Nat.not_lt.mpr hle)

/-! ## What is registered -/

/-- The key of a registration. -/
def functionKey (name : Option Bytes) (argc : Int) (flags : Nat) : FunctionKey where
  name := (name.getD []).map upperToLower
  argc := argc
  encoding := flags &&& 7

theorem functionKey_valid (name : Option Bytes) {argc : Int} (hargc : -1 ≤ argc) {flags : Nat}
    (hflags : ∃ encoding deterministic directOnly, flags = functionFlags encoding deterministic directOnly) :
    (functionKey name argc flags).Valid := by
  obtain ⟨encoding, deterministic, directOnly, rfl⟩ := hflags
  exact ⟨hargc, encoding, functionFlags_encoding encoding deterministic directOnly⟩

namespace FunctionTable

/-- What the table has under a key. -/
def lookup (self : FunctionTable) (key : FunctionKey) : Option (Option Nat) :=
  (self.entries.find? (fun entry => entry.key = key)).map FunctionEntry.object

/-- No key is there twice, and each is one that a registration can make. -/
structure Keyed (table : FunctionTable) : Prop where
  nodup : (table.entries.map FunctionEntry.key).Nodup
  valid : ∀ entry ∈ table.entries, entry.key.Valid

theorem Keyed.lookup_iff {self : FunctionTable} (h : self.Keyed) (entry : FunctionEntry) :
    self.lookup entry.key = some entry.object ↔ entry ∈ self.entries := by
  unfold lookup
  rw [Option.map_eq_some_iff]
  constructor
  · rintro ⟨found, hfound, hobject⟩
    have hkey : found.key = entry.key := by simpa using List.find?_some hfound
    have hsame : found = entry := by
      obtain ⟨key, object⟩ := found
      obtain ⟨key', object'⟩ := entry
      exact congrArg₂ FunctionEntry.mk hkey hobject
    exact hsame ▸ List.mem_of_find?_eq_some hfound
  · intro hentry
    have hsome : (self.entries.find? (fun e => e.key = entry.key)).isSome := by
      rw [List.find?_isSome]
      exact ⟨entry, hentry, decide_eq_true rfl⟩
    obtain ⟨found, hfound⟩ := Option.isSome_iff_exists.mp hsome
    have hkey : found.key = entry.key := by simpa using List.find?_some hfound
    have hsame := List.inj_on_of_nodup_map h.nodup (List.mem_of_find?_eq_some hfound) hentry hkey
    exact ⟨found, hfound, congrArg _ hsame⟩

/-- An entry under a key takes the place of the one that was there. -/
def replaced (self : FunctionTable) (entry : FunctionEntry) : List FunctionEntry :=
  self.entries.filter (fun e => ¬ e.key = entry.key) ++ [entry]

theorem Keyed.replaced {self table : FunctionTable} (h : self.Keyed) {entry : FunctionEntry}
    (hvalid : entry.key.Valid) (hentries : table.entries = self.replaced entry) : table.Keyed := by
  constructor
  · rw [hentries, FunctionTable.replaced, List.map_append, List.nodup_append]
    refine ⟨h.nodup.sublist ((List.filter_sublist).map _), List.nodup_singleton _, ?_⟩
    intro key hkey key' hkey' heq
    obtain ⟨e, he, rfl⟩ := List.mem_map.mp hkey
    have hother := (List.mem_filter.mp he).2
    simp only [List.map_cons, List.map_nil, List.mem_singleton] at hkey'
    simp [heq, hkey'] at hother
  · intro e he
    rw [hentries, FunctionTable.replaced, List.mem_append, List.mem_singleton] at he
    rcases he with he | rfl
    · exact h.valid e (List.mem_filter.mp he).1
    · exact hvalid

theorem lookup_replaced {self table : FunctionTable} {entry : FunctionEntry}
    (hentries : table.entries = self.replaced entry) (key : FunctionKey) :
    table.lookup key = if entry.key = key then some entry.object else self.lookup key := by
  unfold lookup
  rw [hentries, replaced, List.find?_append, List.find?_filter]
  by_cases hkey : entry.key = key
  · subst hkey
    have hnone : (fun e : FunctionEntry => decide (decide (¬ e.key = entry.key) = true ∧
        decide (e.key = entry.key) = true)) = fun _ => false := by
      funext e
      by_cases he : e.key = entry.key <;> simp [he]
    rw [if_pos rfl, hnone, List.find?_eq_none.mpr (fun _ _ => Bool.false_ne_true), Option.none_or]
    simp
  · have hsame : (fun e : FunctionEntry => decide (decide (¬ e.key = entry.key) = true ∧
        decide (e.key = key) = true)) = fun e => decide (e.key = key) := by
      funext e
      by_cases he : e.key = key
      · simp [he, Ne.symm hkey]
      · simp [he]
    rw [if_neg hkey, hsame, List.find?_cons_of_neg (by simpa using hkey), List.find?_nil, Option.or_none]

end FunctionTable

namespace DatabaseFunctions

open FunctionTable

/-- What a call registers under a key: an object, or a plain pointer. -/
def registeredAs (key : FunctionKey) (s : DatabaseFunctions) (call : FunctionCall) : List (Option Nat) :=
  match call, databaseFunctions.reply s call with
  | .register name (some f) _, .ok () => if functionKey name f.argc f.flags = key then [some s.passed] else []
  | .registerPointer name _ encoding deterministic directOnly _, .ok () =>
    if functionKey name (-1) (functionFlags encoding deterministic directOnly) = key then [none] else []
  | _, _ => []

/-- What was last registered under a key. -/
def lastRegistered (calls : List FunctionCall) (key : FunctionKey) : Option (Option Nat) :=
  (databaseFunctions.collect (registeredAs key) initial calls).getLast?

/-- What one call does to the entries while the database stays open. -/
inductive EntriesStep (s : DatabaseFunctions) (call : FunctionCall) (s' : DatabaseFunctions) : Prop
  | same (hentries : s'.table.entries = s.table.entries) (hnothing : ∀ key, registeredAs key s call = [])
  | registers (entry : FunctionEntry) (hvalid : entry.key.Valid)
    (hentries : s'.table.entries = s.table.replaced entry)
    (hregisters : ∀ key, registeredAs key s call = if entry.key = key then [entry.object] else [])

/-- A registration that is refused leaves the entries, and one that is accepted replaces one. -/
theorem createFunctionV2_cases (self : FunctionTable) (name : Option Bytes) (argc : Int) (flags : Nat)
    (object : Option Nat) (refusal : Option FailureCode) :
    (∃ code : FailureCode, self.createFunctionV2 name argc flags object refusal =
        (code.val, self.delete object.toList)) ∨
      ∃ table, self.createFunctionV2 name argc flags object refusal = (0, table) ∧
        table.entries = self.replaced ⟨functionKey name argc flags, object⟩ := by
  unfold createFunctionV2
  by_cases hmisuse : Misuse name argc
  · rw [if_pos hmisuse]
    exact Or.inl ⟨⟨SQLite3Code.misuse, by decide⟩, rfl⟩
  · rw [if_neg hmisuse]
    cases refusal with
    | some code => exact Or.inl ⟨code, rfl⟩
    | none => exact Or.inr ⟨_, rfl, rfl⟩

/-- A call that throws and leaves the entries has registered nothing. -/
theorem entriesStep_throws {s s' : DatabaseFunctions} {call : FunctionCall} {e : Exception}
    (hstep : databaseFunctions.step s call = (.error e, s')) (hentries : s'.table.entries = s.table.entries) :
    EntriesStep s call (databaseFunctions.next s call) := by
  have hreply : databaseFunctions.reply s call = .error e := congrArg Prod.fst hstep
  have hnext : databaseFunctions.next s call = s' := congrArg Prod.snd hstep
  refine .same (hnext ▸ hentries) (fun key => ?_)
  unfold registeredAs
  rw [hreply]
  cases call with
  | register name function refusal => cases function <;> rfl
  | _ => rfl

theorem entriesStep_register {s : DatabaseFunctions} (hopened : s.opened = true) (name : Option Bytes)
    (f : Function) (refusal : Option FailureCode) :
    EntriesStep s (.register name (some f) refusal)
      (databaseFunctions.next s (.register name (some f) refusal)) := by
  rcases createFunctionV2_cases s.table name f.argc f.flags (some s.passed) refusal with
    ⟨⟨code, hcode⟩, hcreate⟩ | ⟨table, hcreate, hentries⟩
  · have hstep : databaseFunctions.step s (.register name (some f) refusal) =
        (.error (.sqlite3 code ""), { s with
          passed := s.passed + 1
          table := (s.table.delete [s.passed]).delete [s.passed] }) := by
      simp [databaseFunctions, registerFunction, hopened, hcreate, hcode]
    exact entriesStep_throws hstep rfl
  · have hstep : databaseFunctions.step s (.register name (some f) refusal) =
        (.ok (), { s with passed := s.passed + 1, table }) := by
      simp [databaseFunctions, registerFunction, hopened, hcreate]
    refine .registers ⟨functionKey name f.argc f.flags, some s.passed⟩
      (functionKey_valid name f.argc_ge f.flags_eq) ?_ (fun key => ?_)
    · rw [Component.next, hstep]
      exact hentries
    · unfold registeredAs Component.reply
      rw [hstep]

theorem entriesStep_registerPointer {s : DatabaseFunctions} (hopened : s.opened = true) (name : Option Bytes)
    (isNull : Bool) (encoding : TextEncoding) (deterministic directOnly : Bool) (refusal : Option FailureCode) :
    EntriesStep s (.registerPointer name isNull encoding deterministic directOnly refusal)
      (databaseFunctions.next s (.registerPointer name isNull encoding deterministic directOnly refusal)) := by
  cases isNull with
  | true =>
    have hstep : databaseFunctions.step s
        (.registerPointer name true encoding deterministic directOnly refusal) =
          (.error (.ysqlite3 .nullFunction), s) := by
      simp [databaseFunctions, registerPointer, hopened]
    exact entriesStep_throws hstep rfl
  | false =>
    rcases createFunctionV2_cases s.table name (-1) (functionFlags encoding deterministic directOnly) none
      refusal with ⟨⟨code, hcode⟩, hcreate⟩ | ⟨table, hcreate, hentries⟩
    · have hstep : databaseFunctions.step s
          (.registerPointer name false encoding deterministic directOnly refusal) =
            (.error (.sqlite3 code ""), { s with table := s.table.delete [] }) := by
        simp [databaseFunctions, registerPointer, hopened, hcreate, hcode]
      exact entriesStep_throws hstep rfl
    · have hstep : databaseFunctions.step s
          (.registerPointer name false encoding deterministic directOnly refusal) =
            (.ok (), { s with table }) := by
        simp [databaseFunctions, registerPointer, hopened, hcreate]
      refine .registers ⟨functionKey name (-1) (functionFlags encoding deterministic directOnly), none⟩
        (functionKey_valid name (Int.le_refl _) ⟨encoding, deterministic, directOnly, rfl⟩) ?_ (fun key => ?_)
      · rw [Component.next, hstep]
        exact hentries
      · unfold registeredAs Component.reply
        rw [hstep]

/-- A database that was closed stays closed. -/
theorem opened_of_next {s : DatabaseFunctions} {call : FunctionCall}
    (h : (databaseFunctions.next s call).opened = true) : s.opened = true := by
  by_contra hclosed
  rw [Bool.not_eq_true] at hclosed
  cases call with
  | register name function refusal =>
    cases function with
    | none => simp [Component.next, databaseFunctions, registerFunction, hclosed] at h
    | some f => simp [Component.next, databaseFunctions, registerFunction, hclosed] at h
  | registerPointer name isNull encoding deterministic directOnly refusal =>
    simp [Component.next, databaseFunctions, registerPointer, hclosed] at h
  | invoke entry =>
    unfold Component.next databaseFunctions invoke at h
    simp only at h
    split at h <;> exact absurd (h.symm.trans hclosed) (by decide)
  | close force ec needed => simp [Component.next, databaseFunctions, close, hclosed] at h
  | finish => simp [Component.next, databaseFunctions, finish, hclosed] at h

theorem entriesStep {s : DatabaseFunctions} {call : FunctionCall}
    (h : (databaseFunctions.next s call).opened = true) :
    EntriesStep s call (databaseFunctions.next s call) := by
  have hopened := opened_of_next h
  cases call with
  | register name function refusal =>
    cases function with
    | none =>
      refine .same ?_ (fun key => ?_)
      · simp [Component.next, databaseFunctions, registerFunction, hopened]
      · simp [registeredAs]
    | some f => exact entriesStep_register hopened name f refusal
  | registerPointer name isNull encoding deterministic directOnly refusal =>
    exact entriesStep_registerPointer hopened name isNull encoding deterministic directOnly refusal
  | invoke entry =>
    refine .same ?_ (fun _ => rfl)
    unfold Component.next databaseFunctions invoke
    simp only
    split <;> rfl
  | close force ec needed =>
    refine .same ?_ (fun _ => rfl)
    cases force with
    | true => simp [Component.next, databaseFunctions, close, hopened] at h
    | false =>
      by_cases hec : ec = 0
      · simp [Component.next, databaseFunctions, close, hopened, hec] at h
      · simp [Component.next, databaseFunctions, close, hopened, hec]
  | finish =>
    refine .same ?_ (fun _ => rfl)
    simp [Component.next, databaseFunctions, finish, hopened]

theorem keyed_next {s : DatabaseFunctions} {call : FunctionCall} (hkeyed : s.table.Keyed)
    (h : (databaseFunctions.next s call).opened = true) : (databaseFunctions.next s call).table.Keyed := by
  cases entriesStep h with
  | same hentries hnothing => exact ⟨hentries ▸ hkeyed.nodup, hentries ▸ hkeyed.valid⟩
  | registers entry hvalid hentries hregisters => exact hkeyed.replaced hvalid hentries

/-- The step lemma: a call puts what it registers under its key. -/
theorem lookup_next {s : DatabaseFunctions} {call : FunctionCall}
    (h : (databaseFunctions.next s call).opened = true) (key : FunctionKey) :
    (databaseFunctions.next s call).table.lookup key =
      (registeredAs key s call).getLast?.or (s.table.lookup key) := by
  cases entriesStep h with
  | same hentries hnothing =>
    rw [hnothing key]
    unfold lookup
    rw [hentries]
    rfl
  | registers entry hvalid hentries hregisters =>
    rw [lookup_replaced hentries key, hregisters key]
    split <;> rfl

/-! ## Runs -/

theorem opened_throughout {calls : List FunctionCall} : ∀ {s : DatabaseFunctions},
    (databaseFunctions.run s calls).opened = true →
      s.opened = true ∧ databaseFunctions.Throughout
        (fun s call => (databaseFunctions.next s call).opened = true) s calls := by
  induction calls with
  | nil => exact fun h => ⟨h, trivial⟩
  | cons call calls ih =>
    intro s h
    obtain ⟨hnext, hrest⟩ := ih h
    exact ⟨opened_of_next hnext, hnext, hrest⟩

theorem keyed_run {calls : List FunctionCall} (hopen : (databaseFunctions.run initial calls).opened = true) :
    (databaseFunctions.run initial calls).table.Keyed := by
  have hstep : ∀ s call, s.table.Keyed → (databaseFunctions.next s call).opened = true →
      (databaseFunctions.next s call).table.Keyed := fun _ _ hkeyed h => keyed_next hkeyed h
  exact databaseFunctions.run_invariant hstep ⟨List.nodup_nil, fun _ he => nomatch he⟩
    (opened_throughout hopen).2

/-- While the database is open, the table has under each key what was last registered. -/
theorem lookup_run {calls : List FunctionCall} (hopen : (databaseFunctions.run initial calls).opened = true)
    (key : FunctionKey) :
    (databaseFunctions.run initial calls).table.lookup key = lastRegistered calls key := by
  have hrun := databaseFunctions.run_collected (fun _ => True) (fun s => s.table.lookup key) (registeredAs key)
    (fun _ _ _ _ => trivial) (fun _ _ _ h => lookup_next h key) trivial (opened_throughout hopen).2
  exact hrun.trans (Option.or_none)

/-- The functions that a call by this name with so many arguments can mean. -/
def Candidates (calls : List FunctionCall) (name : Bytes) (nArg : Nat) (key : FunctionKey) : Prop :=
  lastRegistered calls key ≠ none ∧ key.name = name.map upperToLower ∧ key.Accepts nArg

/-- In every program, with registrations accepted or refused in any order: as long as the database is open, a
call in SQL by any spelling of a name runs what was last registered under a key with that name, one that
accepts the arguments and than which no other registered one is more special; and a function that SQLite
brings along only if there is none. -/
theorem findFunction_lastRegistered (calls : List FunctionCall)
    (hopen : (databaseFunctions.run initial calls).opened = true) (name : Bytes) (nArg : Nat)
    (enc : TextEncoding) (functions builtin : List FunctionEntry)
    (hfunctions : (databaseFunctions.run initial calls).table.Functions name functions) :
    (∃ entry, findFunction nArg enc false functions builtin = some entry ∧
        lastRegistered calls entry.key = some entry.object ∧ entry.key.name = name.map upperToLower ∧
        entry.key.Preferred (Candidates calls name nArg) nArg enc) ∨
      (∀ key, ¬ Candidates calls name nArg key) ∧
        findFunction nArg enc false functions builtin = bestMatch nArg enc builtin none 0 := by
  have hkeyed := keyed_run hopen
  have hlookup := lookup_run hopen
  generalize (databaseFunctions.run initial calls).table = table at *
  have hmem : ∀ entry, entry ∈ functions ↔
      lastRegistered calls entry.key = some entry.object ∧ entry.key.name = name.map upperToLower := by
    intro entry
    rw [hfunctions.mem_iff, List.mem_filter, decide_eq_true_iff, ← hkeyed.lookup_iff, hlookup]
  have hcandidate : ∀ key, Candidates calls name nArg key →
      key.Valid ∧ ∃ entry ∈ functions, entry.key = key := by
    rintro key ⟨hregistered, hname, -⟩
    obtain ⟨object, hobject⟩ := Option.ne_none_iff_exists'.mp hregistered
    have hentry := (hmem ⟨key, object⟩).mpr ⟨hobject, hname⟩
    refine ⟨?_, _, hentry, rfl⟩
    have hin := (List.mem_filter.mp (hfunctions.mem_iff.mp hentry)).1
    exact hkeyed.valid _ hin
  rcases bestMatch_cases nArg enc functions none 0 with ⟨hnone, hle⟩ | ⟨entry, hentry, hfound, hpos, hle⟩
  · right
    constructor
    · intro key hkey
      obtain ⟨hvalid, entry, hentry, rfl⟩ := hcandidate key hkey
      have hpos : 0 < entry.matchQuality nArg enc := (matchQuality_pos_iff hvalid).mpr hkey.2.2
      exact absurd hpos (Nat.not_lt.mpr (hle entry hentry))
    · unfold findFunction
      simp only [hnone, true_or, if_true]
  · left
    obtain ⟨hregistered, hname⟩ := (hmem entry).mp hentry
    refine ⟨entry, ?_, hregistered, hname, ?_⟩
    · unfold findFunction
      simp [hfound]
    · have hin := (List.mem_filter.mp (hfunctions.mem_iff.mp hentry)).1
      apply preferred_of_best hpos (hkeyed.valid _ hin)
      intro key hkey
      obtain ⟨hvalid, entry', hentry', rfl⟩ := hcandidate key hkey
      exact ⟨hvalid, entry', rfl, hle entry' hentry'⟩

/-- A function for two arguments, and one for any number under another spelling of the name. -/
def twoFunctions : List FunctionCall :=
  [.register (some (cstr "Regexp")) (some (.construct 2 true false .utf8)) none,
    .registerPointer (some (cstr "REGEXP")) false .utf8 true false none]

theorem findFunction_twoFunctions :
    let functions := (databaseFunctions.run initial twoFunctions).table.entries.filter
      (fun entry => entry.key.name = (cstr "regexp").map upperToLower)
    (∃ entry, findFunction 2 .utf8 false functions [] = some entry ∧
        lastRegistered twoFunctions entry.key = some entry.object ∧
        entry.key.name = (cstr "regexp").map upperToLower ∧
        entry.key.Preferred (Candidates twoFunctions (cstr "regexp") 2) 2 .utf8) ∨
      (∀ key, ¬ Candidates twoFunctions (cstr "regexp") 2 key) ∧
        findFunction 2 .utf8 false functions [] = bestMatch 2 .utf8 [] none 0 :=
  findFunction_lastRegistered twoFunctions (by decide) (cstr "regexp") 2 .utf8 _ [] (List.Perm.refl _)

end DatabaseFunctions

end Ysqlite3
