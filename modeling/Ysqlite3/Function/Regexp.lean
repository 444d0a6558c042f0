import Ysqlite3.Span
import Ysqlite3.Misc.Component
import Ysqlite3.Misc.Ownership

/-!
# The function REGEXP

`Regexp::run` keeps the compiled pattern as auxiliary data of its first argument. SQLite discards such data
when it likes, and when it does so before `sqlite3_set_auxdata` returns, the pattern that is matched next has
been destroyed.
-/

namespace Ysqlite3.Regexp

open Ownership

/-- What the constructor of `std::regex` throws. -/
inductive RegexFailure where
  | regexError (what : String)
  | other (exception : Exception)
  deriving DecidableEq, Repr

/-- `std::regex`: the constructor, with the flags `ECMAScript | optimize`, and `std::regex_match`. -/
structure Regex (ρ : Type) where
  construct : Bytes → Except RegexFailure ρ
  regexMatch : ρ → Bytes → Except Exception Bool

/-- What a call of `run` comes to; the value is what `sqlite3_result_int` is given. -/
inductive Reply where
  | result (value : Int)
  | throws (exception : Exception)
  | undefined
  deriving DecidableEq, Repr

/-- Metadata that SQLite keeps for a call of REGEXP in a query: the pattern argument it is for and the
compiled pattern. -/
structure AuxData where
  site : Nat
  pattern : Bytes
  regex : Nat
  deriving DecidableEq, Repr

/-- The metadata of all queries and all patterns that were compiled, numbered in the order they were. -/
structure Cache (ρ : Type) where
  auxData : List AuxData
  compiled : List ρ
  log : List (Event Nat)

variable {ρ : Type}

namespace Cache

def initial : Cache ρ where
  auxData := []
  compiled := []
  log := []

/-- SQLite discards some of its metadata, with the destructor that came with it. -/
def discard (p : AuxData → Bool) (self : Cache ρ) : Cache ρ :=
  { self with
    auxData := self.auxData.filter (fun data => !p data)
    log := self.log ++ ((self.auxData.filter p).map AuxData.regex).map .released }

/-- `sqlite3_get_auxdata` -/
def getAuxdata (site : Nat) (self : Cache ρ) : Option Nat :=
  (self.auxData.find? (fun data => data.site = site)).map AuxData.regex

/-- `sqlite3_set_auxdata`; `kept` tells whether the metadata outlives the call. -/
def setAuxdata (site : Nat) (pattern : Bytes) (regex : Nat) (kept : Bool) (self : Cache ρ) : Cache ρ :=
  let self := self.discard (fun data => data.site = site)
  if kept then { self with auxData := { site, pattern, regex } :: self.auxData }
  else { self with log := self.log ++ [.released regex] }

/-- `new std::regex{ str, … }`, once it is compiled. -/
def create (regex : ρ) (self : Cache ρ) : Cache ρ := { self with compiled := self.compiled ++ [regex] }

/-- The end of `run`: a text is matched against `*pattern`. -/
def matchText (library : Regex ρ) (pattern : Nat) (text : Option Bytes) (self : Cache ρ) :
    Reply × Cache ρ :=
  match text with
  | none => (.result 0, self)
  | some str =>
    let used := { self with log := self.log ++ [.used pattern] }
    if pattern ∈ releases self.log then (.undefined, used)
    else match self.compiled[pattern]? with
      | none => (.undefined, used)
      | some regex =>
        match library.regexMatch regex (cString str) with
        | .error e => (.throws e, used)
        | .ok matched => (.result (if matched then 1 else 0), used)

/-- `Regexp::run` with the texts of its arguments. -/
def run (library : Regex ρ) (site : Nat) (argv : List (Option Bytes)) (kept : Bool) (self : Cache ρ) :
    Reply × Cache ρ :=
  match argv with
  | [pattern, text] =>
    match self.getAuxdata site with
    | some regex => self.matchText library regex text
    | none =>
      match pattern with
      | none => (.throws (.sqlite3 SQLite3Code.generic "bad regex"), self)
      | some str =>
        match library.construct (cString str) with
        | .error (.regexError what) => (.throws (.sqlite3 SQLite3Code.generic what), self)
        | .error (.other e) => (.throws e, self)
        | .ok regex =>
          ((self.create regex).setAuxdata site str self.compiled.length kept).matchText library
            self.compiled.length text
  | _ => (.throws (.sqlite3 SQLite3Code.generic "requires 2 arguments"), self)

/-- The metadata for a pattern argument that changed is discarded. -/
def change (site : Nat) (argv : List (Option Bytes)) (self : Cache ρ) : Cache ρ :=
  self.discard (fun data => data.site = site ∧ argv.head? ≠ some (some data.pattern))

end Cache

/-- What happens to the metadata of the queries. -/
inductive Call where
  | run (site : Nat) (argv : List (Option Bytes)) (kept : Bool)
  | discard (site : Nat)
  deriving DecidableEq, Repr

/-- Any number of queries that call REGEXP. -/
def queries (library : Regex ρ) : Component (Cache ρ) Call (Option Reply) where
  step self
    | .run site argv kept =>
      let (reply, self) := (self.change site argv).run library site argv kept
      (some reply, self)
    | .discard site => (none, self.discard (fun data => data.site = site))

/-- Matching a text, if there is one, against a compiled pattern. -/
def matched (library : Regex ρ) (regex : ρ) : Option Bytes → Reply
  | none => .result 0
  | some str =>
    match library.regexMatch regex (cString str) with
    | .error e => .throws e
    | .ok matched => .result (if matched then 1 else 0)

/-- Matching the text against a fresh compilation of the pattern. -/
def fresh (library : Regex ρ) : List (Option Bytes) → Reply
  | [pattern, text] =>
    match pattern with
    | none => .throws (.sqlite3 SQLite3Code.generic "bad regex")
    | some str =>
      match library.construct (cString str) with
      | .error (.regexError what) => .throws (.sqlite3 SQLite3Code.generic what)
      | .error (.other e) => .throws e
      | .ok regex => matched library regex text
  | _ => .throws (.sqlite3 SQLite3Code.generic "requires 2 arguments")

/-- The replies of `run` without a cache. -/
def Call.fresh (library : Regex ρ) : Call → Option Reply
  | run _ argv _ => some (Regexp.fresh library argv)
  | discard _ => none

/-- The metadata for a pattern that is compiled, and has a text matched against it, outlives the call of
`sqlite3_set_auxdata`. -/
def KeptWhileUsed (library : Regex ρ) (s : Cache ρ) : Call → Prop
  | .run site argv kept => ∀ pattern text regex, argv = [some pattern, some text] →
      (s.change site argv).getAuxdata site = none → library.construct (cString pattern) = .ok regex →
        kept = true
  | .discard _ => True

/-! ## What each step keeps -/

namespace Cache

/-- The compiled patterns are in the metadata or were destroyed, and the metadata for a pattern is its
compilation. -/
structure Booked (library : Regex ρ) (s : Cache ρ) : Prop where
  once : Once s.compiled.length s.log (s.auxData.map AuxData.regex)
  fits : ∀ data ∈ s.auxData, ∃ regex,
    library.construct (cString data.pattern) = .ok regex ∧ s.compiled[data.regex]? = some regex

theorem initial_booked (library : Regex ρ) : Booked library .initial where
  once := Once.start
  fits _ hdata := absurd hdata List.not_mem_nil

section Steps

variable {library : Regex ρ} {s : Cache ρ} {site : Nat} {str : Bytes} {regex : ρ} {pattern : Nat}
  {text : Option Bytes}

/-- The metadata to be discarded comes first. -/
theorem Booked.once_split (h : Booked library s) (p : AuxData → Bool) :
    Once s.compiled.length s.log ((s.auxData.filter p).map AuxData.regex ++
      (s.auxData.filter (fun data => !p data)).map AuxData.regex) := by
  apply h.once.perm
  rw [← List.map_append]
  exact ((List.filter_append_perm p s.auxData).map AuxData.regex).symm

theorem Booked.discard (h : Booked library s) (p : AuxData → Bool) :
    Booked library (s.discard p) ∧ (Silent (s.discard p).log ↔ Silent s.log) := by
  have hsplit := h.once_split p
  refine ⟨⟨hsplit.release, ?_⟩, silent_release_iff hsplit⟩
  exact fun data hdata => h.fits data (List.mem_of_mem_filter hdata)

/-- A pattern that was compiled is there for the rest of the call, unless its metadata is discarded at
once. -/
theorem Booked.setAuxdata (h : Booked library s) (site : Nat)
    (hstr : library.construct (cString str) = .ok regex) (kept : Bool) {s' : Cache ρ}
    (hs' : (s.create regex).setAuxdata site str s.compiled.length kept = s') :
    Booked library s' ∧ (Silent s'.log ↔ Silent s.log) ∧
      s'.compiled[s.compiled.length]? = some regex ∧
        (s.compiled.length ∈ releases s'.log ↔ kept = false) := by
  obtain ⟨hbooked, hsilent⟩ := h.discard (fun data => data.site = site)
  have hissued := hbooked.once.issue
  have hnew : (s.compiled ++ [regex])[s.compiled.length]? = some regex := List.getElem?_concat_length
  have hlength : (s.compiled ++ [regex]).length = s.compiled.length + 1 := List.length_append
  have hfits : ∀ data ∈ (s.discard fun data => data.site = site).auxData, ∃ regex',
      library.construct (cString data.pattern) = .ok regex' ∧
        (s.compiled ++ [regex])[data.regex]? = some regex' := by
    intro data hdata
    obtain ⟨regex', hconstruct, hcompiled⟩ := hbooked.fits data hdata
    have hlt : data.regex < s.compiled.length := (List.getElem?_eq_some_iff.mp hcompiled).1
    exact ⟨regex', hconstruct, (List.getElem?_append_left hlt).trans hcompiled⟩
  cases kept with
  | true =>
    subst hs'
    refine ⟨⟨?_, ?_⟩, hsilent, hnew, ?_⟩
    · show Once (s.compiled ++ [regex]).length _ (s.compiled.length :: _)
      rw [hlength]
      exact hissued
    · intro data hdata
      rcases List.mem_cons.mp hdata with rfl | hdata
      · exact ⟨regex, hstr, hnew⟩
      · exact hfits data hdata
    · exact iff_of_false (hissued.held_not_released List.mem_cons_self) (by decide)
  | false =>
    subst hs'
    have hreleased : Once _ _ ([s.compiled.length] ++ _) := hissued
    refine ⟨⟨?_, hfits⟩, (silent_release_iff hreleased).trans hsilent, hnew, ?_⟩
    · show Once (s.compiled ++ [regex]).length _ _
      rw [hlength]
      exact hreleased.release
    · apply iff_of_true _ rfl
      show _ ∈ releases (_ ++ [Event.released s.compiled.length])
      rw [releases_append]
      exact List.mem_append_right _ (List.mem_singleton.mpr rfl)

/-- The compiled pattern is used once, if there is a text. -/
theorem matchText_cases (s : Cache ρ) (pattern : Nat) (text : Option Bytes) :
    text = none ∧ s.matchText library pattern text = (.result 0, s) ∨
      text ≠ none ∧ (s.matchText library pattern text).2 = { s with log := s.log ++ [.used pattern] } := by
  cases text with
  | none => exact Or.inl ⟨rfl, rfl⟩
  | some str =>
    refine Or.inr ⟨Option.some_ne_none str, ?_⟩
    rw [matchText]
    split
    · rfl
    · split
      · rfl
      · split <;> rfl

theorem Booked.matchText (h : Booked library s) (pattern : Nat) (text : Option Bytes) :
    Booked library (s.matchText library pattern text).2 := by
  rcases s.matchText_cases pattern text with ⟨-, heq⟩ | ⟨-, heq⟩
  · rw [heq]
    exact h
  · rw [heq]
    exact ⟨h.once.use pattern, h.fits⟩

theorem silent_matchText_iff :
    Silent (s.matchText library pattern text).2.log ↔
      Silent s.log ∧ (text ≠ none → pattern ∉ releases s.log) := by
  rcases s.matchText_cases pattern text with ⟨hnone, heq⟩ | ⟨hsome, heq⟩
  · rw [heq]
    exact (and_iff_left fun hsome => absurd hnone hsome).symm
  · rw [heq, forall_prop_of_true hsome]
    exact silent_use_iff

/-- A pattern that was not destroyed is matched. -/
theorem matchText_reply (hcompiled : s.compiled[pattern]? = some regex)
    (halive : text ≠ none → pattern ∉ releases s.log) :
    (s.matchText library pattern text).1 = matched library regex text := by
  cases text with
  | none => rfl
  | some str =>
    have hthere := halive (Option.some_ne_none str)
    simp only [Cache.matchText, if_neg hthere, hcompiled, matched]
    split <;> rfl

/-! ### A call of `run` -/

/-- A pattern that is compiled in the call and has a text matched against it outlives the call of
`sqlite3_set_auxdata`. -/
def KeptInRun (library : Regex ρ) (site : Nat) (argv : List (Option Bytes)) (kept : Bool)
    (s : Cache ρ) : Prop :=
  ∀ pattern text regex, argv = [some pattern, some text] → s.getAuxdata site = none →
    library.construct (cString pattern) = .ok regex → kept = true

/-- What a call of `run` keeps, and what it does where the pattern is kept. -/
structure Served (library : Regex ρ) (argv : List (Option Bytes)) (kept : Prop) (s : Cache ρ)
    (outcome : Reply × Cache ρ) : Prop where
  booked : Booked library outcome.2
  silent_iff : Silent outcome.2.log ↔ Silent s.log ∧ kept
  reply : kept → outcome.1 = fresh library argv

/-- A call that compiles nothing. -/
theorem Booked.served (h : Booked library s) {argv : List (Option Bytes)} {kept : Prop}
    (hkept : kept) {reply : Reply} (hreply : reply = fresh library argv) :
    Served library argv kept s (reply, s) where
  booked := h
  silent_iff := (and_iff_left hkept).symm
  reply _ := hreply

/-- A call that ends with a match. -/
theorem Booked.served_matchText {s' : Cache ρ} (h : Booked library s')
    (hsilent : Silent s'.log ↔ Silent s.log) (hcompiled : s'.compiled[pattern]? = some regex)
    {argv : List (Option Bytes)} (hfresh : fresh library argv = matched library regex text) {kept : Prop}
    (hkept : kept ↔ (text ≠ none → pattern ∉ releases s'.log)) :
    Served library argv kept s (s'.matchText library pattern text) where
  booked := h.matchText pattern text
  silent_iff := by rw [silent_matchText_iff, hsilent, hkept]
  reply hrun := (matchText_reply hcompiled (hkept.mp hrun)).trans hfresh.symm

/-- What the metadata is found for. -/
theorem getAuxdata_eq_some (hfound : s.getAuxdata site = some pattern) :
    ∃ data ∈ s.auxData, data.site = site ∧ data.regex = pattern := by
  obtain ⟨data, hdata, hpattern⟩ := Option.map_eq_some_iff.mp hfound
  have hsite := List.find?_some hdata
  exact ⟨data, List.mem_of_find?_eq_some hdata, of_decide_eq_true hsite, hpattern⟩

theorem Booked.run (h : Booked library s) {argv : List (Option Bytes)}
    (hargv : ∀ data ∈ s.auxData, data.site = site → argv.head? = some (some data.pattern))
    (kept : Bool) :
    Served library argv (KeptInRun library site argv kept s) s (s.run library site argv kept) := by
  rcases argv with - | ⟨argument, - | ⟨text, - | ⟨other, rest⟩⟩⟩
  · exact h.served (fun _ _ _ heq => nomatch heq) rfl
  · exact h.served (fun _ _ _ heq => nomatch heq) rfl
  · simp only [Cache.run]
    cases hfound : s.getAuxdata site with
    | some pattern =>
      -- the metadata is for this pattern
      obtain ⟨data, hdata, hsite, rfl⟩ := getAuxdata_eq_some hfound
      obtain ⟨regex, hconstruct, hcompiled⟩ := h.fits data hdata
      have hpattern : argument = some data.pattern := Option.some.inj (hargv data hdata hsite)
      have halive : data.regex ∉ releases s.log :=
        h.once.held_not_released (List.mem_map_of_mem hdata)
      refine h.served_matchText Iff.rfl hcompiled ?_ (iff_of_true ?_ fun _ => halive)
      · simp only [hpattern, fresh, hconstruct]
      · exact fun _ _ _ _ hnone => nomatch hfound.symm.trans hnone
    | none =>
      cases argument with
      | none => exact h.served (fun _ _ _ heq => nomatch heq) rfl
      | some str =>
        cases hconstruct : library.construct (cString str) with
        | error failure =>
          have hkept : KeptInRun library site [some str, text] kept s := by
            intro pattern text' regex heq _ hok
            cases heq
            exact nomatch hconstruct.symm.trans hok
          cases failure with
          | regexError what =>
            simp only [hconstruct]
            refine h.served hkept ?_
            simp only [fresh, hconstruct]
          | other e =>
            simp only [hconstruct]
            refine h.served hkept ?_
            simp only [fresh, hconstruct]
        | ok regex =>
          obtain ⟨hbooked, hsilent, hcompiled, hreleased⟩ := h.setAuxdata site hconstruct kept rfl
          simp only [hconstruct]
          refine hbooked.served_matchText hsilent hcompiled (by simp only [fresh, hconstruct]) ?_
          rw [hreleased, Bool.not_eq_false]
          constructor
          · intro hrun htext
            obtain ⟨text', rfl⟩ := Option.ne_none_iff_exists'.mp htext
            exact hrun str text' regex rfl hfound hconstruct
          · intro hall pattern text' regex' heq _ _
            cases heq
            exact hall (Option.some_ne_none text')
  · exact h.served (fun _ _ _ heq => nomatch heq) rfl

/-- The metadata that is left is for the pattern of the call. -/
theorem change_fits (s : Cache ρ) (site : Nat) (argv : List (Option Bytes)) :
    ∀ data ∈ (s.change site argv).auxData, data.site = site →
      argv.head? = some (some data.pattern) := by
  intro data hdata hsite
  have hleft := List.of_mem_filter hdata
  by_contra hne
  simp only [Bool.not_eq_true', decide_eq_false_iff_not] at hleft
  exact hleft ⟨hsite, hne⟩

end Steps

end Cache

open Cache

/-- The step lemma. -/
theorem queries_next (library : Regex ρ) (s : Cache ρ) (c : Call) (h : Booked library s) :
    Booked library ((queries library).next s c) ∧
      (Silent ((queries library).next s c).log ↔ Silent s.log ∧ KeptWhileUsed library s c) ∧
      (KeptWhileUsed library s c → (queries library).reply s c = c.fresh library) := by
  cases c with
  | run site argv kept =>
    obtain ⟨hbooked, hsilent⟩ := h.discard (fun data =>
      data.site = site ∧ argv.head? ≠ some (some data.pattern))
    have hserved := hbooked.run (change_fits s site argv) kept
    refine ⟨hserved.booked, hserved.silent_iff.trans (and_congr_left fun _ => hsilent), ?_⟩
    exact fun hkept => congrArg some (hserved.reply hkept)
  | discard site =>
    obtain ⟨hbooked, hsilent⟩ := h.discard (fun data => data.site = site)
    exact ⟨hbooked, hsilent.trans (and_iff_left trivial).symm, fun _ => rfl⟩

/-- Whatever SQLite does with its metadata, each pattern that is compiled is destroyed at most once, and
once when no metadata is left. A pattern that was destroyed is never used, and each call is answered as
without a cache, exactly where no pattern that is still to be used is destroyed in `sqlite3_set_auxdata`. -/
theorem regexp_cached (library : Regex ρ) (calls : List Call) :
    (∀ regex, (releases ((queries library).run .initial calls).log).count regex ≤ 1) ∧
    (((queries library).run .initial calls).auxData = [] →
      ∀ regex < ((queries library).run .initial calls).compiled.length,
        (releases ((queries library).run .initial calls).log).count regex = 1) ∧
    (Silent ((queries library).run .initial calls).log ∧
        (queries library).replies .initial calls = calls.map (Call.fresh library) ↔
      (queries library).Throughout (KeptWhileUsed library) .initial calls) := by
  have hbooked : Booked library ((queries library).run .initial calls) := by
    have hkept : ∀ s c, Booked library s → True → Booked library ((queries library).next s c) :=
      fun s c h _ => (queries_next library s c h).1
    apply (queries library).run_invariant hkept (initial_booked library)
    exact (queries library).throughout_of_forall (fun _ _ _ => trivial) _
  have hsilent : Silent ((queries library).run .initial calls).log ↔
      (queries library).Throughout (KeptWhileUsed library) .initial calls := by
    apply ((queries library).run_iff_throughout (P := fun s => Silent s.log) (Booked library)
      (fun s c h => (queries_next library s c h).1) (fun s c h => (queries_next library s c h).2.1)
      (initial_booked library)).trans
    exact and_iff_right List.Pairwise.nil
  refine ⟨hbooked.once.count_le_one, ?_, ?_⟩
  · intro hnone
    have honce := hbooked.once
    rw [hnone] at honce
    exact honce.at_end
  · constructor
    · exact fun h => hsilent.mp h.1
    · intro hkept
      refine ⟨hsilent.mpr hkept, ?_⟩
      apply (queries library).replies_eq_map _ (initial_booked library) hkept
      exact fun s c h hok => ⟨(queries_next library s c h).2.2 hok, (queries_next library s c h).1⟩

/-- Patterns without special characters. -/
def verbatim : Regex Bytes where
  construct str := .ok str
  regexMatch regex str := .ok (regex = str)

theorem regexp_cached_reset :
    ∀ regex < 1, (releases ((queries verbatim).run .initial
      [.run 0 [some (cstr "a"), some (cstr "b")] true, .discard 0]).log).count regex = 1 :=
  (regexp_cached verbatim [.run 0 [some (cstr "a"), some (cstr "b")] true, .discard 0]).2.1 (by decide)

/-- Where memory runs out in `sqlite3_set_auxdata`, the pattern is destroyed before it is used. -/
theorem pattern_used_destroyed :
    ¬ ∀ calls, Silent ((queries verbatim).run .initial calls).log ∧
      (queries verbatim).replies .initial calls = calls.map (Call.fresh verbatim) := by
  intro h
  have hreplies := (h [.run 0 [some (cstr "a"), some (cstr "a")] false]).2
  exact absurd hreplies (by decide)

end Ysqlite3.Regexp
