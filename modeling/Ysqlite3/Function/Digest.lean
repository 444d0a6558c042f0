import Ysqlite3.Span
import Ysqlite3.Misc.Hashing

/-!
# The digest functions

`digest`, `sha2` and `sha3` choose an algorithm by their first argument and hash the bytes of the others.
They are registered for any number of arguments and read the first one unasked; and both tables of lengths
have 226 in the place of 224.
-/

namespace Ysqlite3.Digest

/-- An argument by what `sqlite3_value_text`, `sqlite3_value_int64`, and `sqlite3_value_blob` together with
`sqlite3_value_bytes`, make of it. -/
structure Value where
  text : Option Bytes
  integer : Int
  blob : Bytes
  deriving DecidableEq, Repr

/-- `sqlite3_value_int` -/
def Value.int (value : Value) : Int := (BitVec.ofInt 32 value.integer).toInt

/-- OpenSSL: the algorithms, the lookup of a name, and the functions of a context. -/
structure Evp (μ σ : Type) where
  sha224 : μ
  sha256 : μ
  sha384 : μ
  sha512 : μ
  sha3_224 : μ
  sha3_256 : μ
  sha3_384 : μ
  sha3_512 : μ
  getDigestbyname : Option Bytes → Option μ
  hasher : Hasher μ σ UInt8

/-- What a call finds: the context of the thread, which is null if there was no memory for it, whether it is
initialised, and whether there is memory for the hash. -/
structure Environment (σ : Type) where
  ctx : Option σ
  initialises : Bool
  memory : Bool

/-- What a function sets as its result, or undefined behaviour. -/
inductive Reply where
  | blob (bytes : Bytes)
  | error (message : Bytes)
  | undefined
  deriving DecidableEq, Repr

/-- `sqlite3_result_error`, where the last argument is the length of the message. -/
def resultError (message : String) (n : Nat) : Reply := .error ((cstr message).take n)

/-- `SQLITE_ERROR` -/
def sqliteError : Nat := 1

variable {μ σ : Type}

/-- The loop over `argc` arguments from position `first` on. An argument that is not there is not to be
read. -/
def updates (evp : Evp μ σ) (argv : List Value) : Nat → Nat → σ → Option σ
  | _, 0, ctx => some ctx
  | first, argc + 1, ctx =>
    match argv[first]? with
    | none => none
    | some value => updates evp argv (first + 1) argc (evp.hasher.update ctx value.blob)

/-- The inline function `digest`, for the arguments from position `first` on. -/
def digestWith (evp : Evp μ σ) (environment : Environment σ) (md : μ) (argv : List Value) (first : Nat)
    (argc : Int) : Reply :=
  match environment.ctx with
  | none => .undefined
  | some ctx =>
    if environment.initialises then
      match updates evp argv first argc.toNat (evp.hasher.init md ctx) with
      | none => .undefined
      | some ctx =>
        -- `EVP_DigestFinal_ex` writes through the pointer it is given
        if environment.memory then .blob (evp.hasher.final ctx) else .undefined
    else resultError "failed to initialize digest" sqliteError

/-- `digest` -/
def digest (evp : Evp μ σ) (environment : Environment σ) (argv : List Value) : Reply :=
  match argv[0]? with
  | none => .undefined
  | some value =>
    match evp.getDigestbyname (value.text.map cString) with
    | none => resultError "digest method unknown" sqliteError
    | some md => digestWith evp environment md argv 1 (argv.length - 1)

/-- What `sha2` and `sha3` differ in. -/
structure Family (μ : Type) where
  md224 : μ
  md256 : μ
  md384 : μ
  md512 : μ
  message : String

/-- The `switch` over the length. -/
def Family.select (family : Family μ) : Int → Option μ
  | 226 => some family.md224
  | 256 => some family.md256
  | 384 => some family.md384
  | 512 => some family.md512
  | _ => none

def sha (family : Family μ) (evp : Evp μ σ) (environment : Environment σ) (argv : List Value) : Reply :=
  match argv[0]? with
  | none => .undefined
  | some value =>
    match family.select value.int with
    | none => resultError family.message sqliteError
    | some md => digestWith evp environment md argv 1 (argv.length - 1)

def sha2Family (evp : Evp μ σ) : Family μ where
  md224 := evp.sha224
  md256 := evp.sha256
  md384 := evp.sha384
  md512 := evp.sha512
  message := "invalid SHA-2 length"

def sha3Family (evp : Evp μ σ) : Family μ where
  md224 := evp.sha3_224
  md256 := evp.sha3_256
  md384 := evp.sha3_384
  md512 := evp.sha3_512
  message := "invalid SHA-3 length"

/-- `sha2` -/
def sha2 (evp : Evp μ σ) : Environment σ → List Value → Reply := sha (sha2Family evp) evp

/-- `sha3` -/
def sha3 (evp : Evp μ σ) : Environment σ → List Value → Reply := sha (sha3Family evp) evp

/-! ## What the functions are for -/

/-- A member of a family, by the length of its hash, its name and its algorithm. -/
structure Member (μ : Type) where
  length : Int
  name : Bytes
  md : μ

/-- The members of a family, whose names begin with `stem`. -/
def Family.members (family : Family μ) (stem : String) : List (Member μ) :=
  [⟨224, cstr (stem ++ "224"), family.md224⟩, ⟨256, cstr (stem ++ "256"), family.md256⟩,
    ⟨384, cstr (stem ++ "384"), family.md384⟩, ⟨512, cstr (stem ++ "512"), family.md512⟩]

def sha2Members (evp : Evp μ σ) : List (Member μ) := (sha2Family evp).members "SHA"

def sha3Members (evp : Evp μ σ) : List (Member μ) := (sha3Family evp).members "SHA3-"

/-- The lookup finds the algorithms that the getters return. -/
def NamesMembers (evp : Evp μ σ) : Prop :=
  ∀ member ∈ sha2Members evp ++ sha3Members evp, evp.getDigestbyname (some member.name) = some member.md

/-- The bytes of the arguments. -/
def concatenated (args : List Value) : Bytes := (args.map Value.blob).flatten

/-- `digest` reads the arguments there are, and gives the hash of those after the name, or an error. -/
structure DigestMeets (evp : Evp μ σ) (hash : μ → Bytes → Bytes) (environment : Environment σ)
    (argv : List Value) : Prop where
  ends : ∀ initialises, digest evp { environment with initialises } argv ≠ .undefined
  hashes : ∀ value args md, argv = value :: args →
    evp.getDigestbyname (value.text.map cString) = some md →
      digest evp { environment with initialises := true } argv = .blob (hash md (concatenated args))

/-- The function for a family reads the arguments there are; for the length of a member it does what `digest`
does for its name, and for any other an error. -/
structure FamilyMeets (evp : Evp μ σ) (hash : μ → Bytes → Bytes) (members : List (Member μ))
    (f : Environment σ → List Value → Reply) (environment : Environment σ) (argv : List Value) : Prop where
  ends : ∀ initialises, f { environment with initialises } argv ≠ .undefined
  agrees : ∀ value args, argv = value :: args → ∀ member ∈ members, value.integer = member.length →
    ∀ named : Value, named.text = some member.name → ∀ initialises,
      f { environment with initialises } argv = digest evp { environment with initialises } (named :: args)
  hashes : ∀ value args, argv = value :: args → ∀ member ∈ members, value.integer = member.length →
    f { environment with initialises := true } argv = .blob (hash member.md (concatenated args))
  refuses : ∀ value args, argv = value :: args → (∀ member ∈ members, value.integer ≠ member.length) →
    ∀ initialises, ∃ message, f { environment with initialises } argv = .error message

/-- There was memory for the context and there is memory for the hash. -/
def Environment.Provides (environment : Environment σ) : Prop :=
  environment.ctx ≠ none ∧ environment.memory = true

/-- There is an argument, and memory if an algorithm is found. -/
def DigestProvided (evp : Evp μ σ) (environment : Environment σ) : List Value → Prop
  | [] => False
  | value :: _ => evp.getDigestbyname (value.text.map cString) ≠ none → environment.Provides

/-- There is an argument; the length is not 224, and not taken for one it is not; and there is memory if an
algorithm is found. -/
def FamilyProvided (family : Family μ) (environment : Environment σ) : List Value → Prop
  | [] => False
  | value :: _ => value.integer ≠ 224 ∧ (family.select value.int ≠ none →
      (value.integer = 256 ∨ value.integer = 384 ∨ value.integer = 512) ∧ environment.Provides)

/-! ## The loop over the arguments -/

section Loop

variable {evp : Evp μ σ} {hash : μ → Bytes → Bytes} {argv : List Value}

/-- The loop reads the arguments from the first one to the end. -/
theorem updates_eq {argc : Nat} : ∀ {first : Nat} (ctx : σ), first + argc = argv.length →
    updates evp argv first argc ctx =
      some (evp.hasher.absorb ctx ((argv.drop first).map Value.blob)) := by
  induction argc with
  | zero =>
    intro first ctx hlength
    have hnil : argv.drop first = [] := List.drop_eq_nil_iff.mpr (Nat.le_of_eq hlength.symm)
    rw [hnil]
    rfl
  | succ argc ih =>
    intro first ctx hlength
    have hfirst : first < argv.length := by omega
    rw [updates, List.getElem?_eq_getElem hfirst, List.drop_eq_getElem_cons hfirst]
    exact ih _ (by omega)

/-- With an argument before them, the others are read and hashed. -/
theorem digestWith_cons (hlawful : evp.hasher.Lawful hash) (environment : Environment σ) (md : μ)
    (value : Value) (args : List Value) :
    digestWith evp environment md (value :: args) 1 ((value :: args).length - 1) =
      match environment.ctx with
      | none => .undefined
      | some _ =>
        if environment.initialises then
          if environment.memory then .blob (hash md (concatenated args)) else .undefined
        else resultError "failed to initialize digest" sqliteError := by
  rw [digestWith]
  cases environment.ctx with
  | none => rfl
  | some ctx =>
    have hargc : (((value :: args).length : Int) - 1).toNat = args.length := by
      rw [List.length_cons]
      omega
    have hlength : 1 + args.length = (value :: args).length := Nat.add_comm 1 args.length
    simp only [hargc, updates_eq _ hlength, List.drop_succ_cons, List.drop_zero,
      hlawful.final_absorb, concatenated]

/-- Every outcome is a result or an error exactly if there is memory. -/
theorem digestWith_ends_iff (hlawful : evp.hasher.Lawful hash) {environment : Environment σ} (md : μ)
    (value : Value) (args : List Value) :
    (∀ initialises, digestWith evp { environment with initialises } md (value :: args) 1
        ((value :: args).length - 1) ≠ .undefined) ↔ environment.Provides := by
  simp only [digestWith_cons hlawful]
  constructor
  · intro hends
    have hend := hends true
    cases hctx : environment.ctx with
    | none =>
      rw [hctx] at hend
      exact absurd rfl hend
    | some ctx =>
      cases hmemory : environment.memory with
      | true => exact ⟨fun hnone => absurd (hctx.symm.trans hnone) (Option.some_ne_none ctx), hmemory⟩
      | false =>
        rw [hctx, hmemory] at hend
        exact absurd rfl hend
  · rintro ⟨hctx, hmemory⟩ initialises
    obtain ⟨ctx, hctx⟩ := Option.ne_none_iff_exists'.mp hctx
    rw [hctx, hmemory]
    cases initialises with
    | true => exact fun heq => nomatch heq
    | false => exact fun heq => nomatch heq

/-- With memory, a context that is initialised gives the hash. -/
theorem digestWith_hashes (hlawful : evp.hasher.Lawful hash) {environment : Environment σ}
    (hprovides : environment.Provides) (md : μ) (value : Value) (args : List Value) :
    digestWith evp { environment with initialises := true } md (value :: args) 1
      ((value :: args).length - 1) = .blob (hash md (concatenated args)) := by
  obtain ⟨ctx, hctx⟩ := Option.ne_none_iff_exists'.mp hprovides.1
  rw [digestWith_cons hlawful]
  simp only [hctx, hprovides.2, if_true]

end Loop

/-! ## The tables -/

section Tables

variable {evp : Evp μ σ} {family : Family μ} {stem : String} {value : Value} {member : Member μ}

theorem mem_members_iff :
    member ∈ family.members stem ↔
      member = ⟨224, cstr (stem ++ "224"), family.md224⟩ ∨ member = ⟨256, cstr (stem ++ "256"), family.md256⟩ ∨
        member = ⟨384, cstr (stem ++ "384"), family.md384⟩ ∨ member = ⟨512, cstr (stem ++ "512"), family.md512⟩ := by
  rw [Family.members, List.mem_cons, List.mem_cons, List.mem_cons, List.mem_singleton]

/-- 224 is in neither table. -/
theorem select_224 (hinteger : value.integer = 224) : family.select value.int = none := by
  rw [Value.int, hinteger]
  rfl

theorem select_member (hmember : member ∈ family.members stem) (hinteger : value.integer = member.length)
    (hne : value.integer ≠ 224) : family.select value.int = some member.md := by
  rcases mem_members_iff.mp hmember with rfl | rfl | rfl | rfl
  · exact absurd hinteger hne
  · rw [Value.int, hinteger]
    rfl
  · rw [Value.int, hinteger]
    rfl
  · rw [Value.int, hinteger]
    rfl

/-- A length that is one of the three is that of a member. -/
theorem exists_member (family : Family μ) (stem : String)
    (hlength : value.integer = 256 ∨ value.integer = 384 ∨ value.integer = 512) :
    ∃ member ∈ family.members stem, value.integer = member.length := by
  rcases hlength with hlength | hlength | hlength
  · exact ⟨_, mem_members_iff.mpr (Or.inr (Or.inl rfl)), hlength⟩
  · exact ⟨_, mem_members_iff.mpr (Or.inr (Or.inr (Or.inl rfl))), hlength⟩
  · exact ⟨_, mem_members_iff.mpr (Or.inr (Or.inr (Or.inr rfl))), hlength⟩

theorem length_of_member (hmember : member ∈ family.members stem) (hne : member.length ≠ 224) :
    member.length = 256 ∨ member.length = 384 ∨ member.length = 512 := by
  rcases mem_members_iff.mp hmember with rfl | rfl | rfl | rfl
  · exact absurd rfl hne
  · exact Or.inl rfl
  · exact Or.inr (Or.inl rfl)
  · exact Or.inr (Or.inr rfl)

/-- The names are C strings. -/
theorem cString_name (hmember : member ∈ sha2Members evp ++ sha3Members evp) :
    cString member.name = member.name := by
  rcases List.mem_append.mp hmember with hmember | hmember
  · rcases mem_members_iff.mp hmember with rfl | rfl | rfl | rfl <;> rfl
  · rcases mem_members_iff.mp hmember with rfl | rfl | rfl | rfl <;> rfl

end Tables

/-! ## Agreement -/

section Agreement

variable {evp : Evp μ σ} {hash : μ → Bytes → Bytes} {environment : Environment σ} {argv : List Value}

theorem digestMeets_iff (hlawful : evp.hasher.Lawful hash) :
    DigestMeets evp hash environment argv ↔ DigestProvided evp environment argv := by
  cases argv with
  | nil => exact iff_of_false (fun h => h.ends true rfl) id
  | cons value args =>
    have hdigest : ∀ environment : Environment σ, digest evp environment (value :: args) =
        match evp.getDigestbyname (value.text.map cString) with
        | none => resultError "digest method unknown" sqliteError
        | some md =>
          digestWith evp environment md (value :: args) 1 ((value :: args).length - 1) := fun _ => rfl
    cases hmd : evp.getDigestbyname (value.text.map cString) with
    | none =>
      simp only [hmd] at hdigest
      apply iff_of_true
      · constructor
        · intro initialises
          rw [hdigest]
          exact fun heq => nomatch heq
        · intro value' args' md heq hmd'
          cases heq
          exact nomatch hmd.symm.trans hmd'
      · exact fun hfound => absurd hmd hfound
    | some md =>
      simp only [hmd] at hdigest
      have hprovided : DigestProvided evp environment (value :: args) ↔ environment.Provides :=
        forall_prop_of_true fun hnone => nomatch hmd.symm.trans hnone
      rw [hprovided, ← digestWith_ends_iff hlawful md value args]
      constructor
      · intro hmeets initialises
        rw [← hdigest]
        exact hmeets.ends initialises
      · intro hends
        constructor
        · intro initialises
          rw [hdigest]
          exact hends initialises
        · intro value' args' md' heq hmd'
          cases heq
          cases hmd.symm.trans hmd'
          rw [hdigest]
          exact digestWith_hashes hlawful ((digestWith_ends_iff hlawful md value args).mp hends) md value args

section Families

variable {family : Family μ} {stem : String} {value : Value} {args : List Value}

theorem sha_refused (hselect : family.select value.int = none) (environment : Environment σ) :
    sha family evp environment (value :: args) = resultError family.message sqliteError := by
  simp only [sha, List.getElem?_cons_zero, hselect]

theorem sha_selected {md : μ} (hselect : family.select value.int = some md) (environment : Environment σ) :
    sha family evp environment (value :: args) =
      digestWith evp environment md (value :: args) 1 ((value :: args).length - 1) := by
  simp only [sha, List.getElem?_cons_zero, hselect]

/-- `digest` by the name of a member. -/
theorem digest_named (hlawful : evp.hasher.Lawful hash) {md : μ}
    (hname : evp.getDigestbyname (value.text.map cString) = some md) (environment : Environment σ)
    (value' : Value) :
    digest evp environment (value :: args) =
      digestWith evp environment md (value' :: args) 1 ((value' :: args).length - 1) := by
  simp only [digest, List.getElem?_cons_zero, hname]
  rw [digestWith_cons hlawful, digestWith_cons hlawful]

/-- For 224 a family has a member and refuses it. -/
theorem FamilyMeets.integer_ne
    (hmeets : FamilyMeets evp hash (family.members stem) (sha family evp) environment (value :: args)) :
    value.integer ≠ 224 := by
  intro hinteger
  have hmember : ⟨224, cstr (stem ++ "224"), family.md224⟩ ∈ family.members stem :=
    mem_members_iff.mpr (Or.inl rfl)
  have hhash := hmeets.hashes value args rfl _ hmember hinteger
  rw [sha_refused (select_224 hinteger)] at hhash
  cases hhash

theorem FamilyMeets.provided (hlawful : evp.hasher.Lawful hash)
    (hmeets : FamilyMeets evp hash (family.members stem) (sha family evp) environment (value :: args))
    (hinteger : value.integer ≠ 224) (hselect : family.select value.int ≠ none) :
    (value.integer = 256 ∨ value.integer = 384 ∨ value.integer = 512) ∧ environment.Provides := by
  obtain ⟨md, hmd⟩ := Option.ne_none_iff_exists'.mp hselect
  have hprovides : environment.Provides := by
    rw [← digestWith_ends_iff hlawful md value args]
    intro initialises
    rw [← sha_selected hmd]
    exact hmeets.ends initialises
  refine ⟨?_, hprovides⟩
  by_contra hlength
  have hother : ∀ member ∈ family.members stem, value.integer ≠ member.length := by
    intro member hmember heq
    rw [heq] at hinteger hlength
    exact hlength (length_of_member hmember hinteger)
  obtain ⟨message, herror⟩ := hmeets.refuses value args rfl hother true
  rw [sha_selected hmd, digestWith_hashes hlawful hprovides] at herror
  cases herror

/-- With an algorithm and memory, the function for a family is `digest`. -/
theorem familyMeets_of_provided (hlawful : evp.hasher.Lawful hash)
    (hnames : ∀ member ∈ family.members stem,
      evp.getDigestbyname (some (cString member.name)) = some member.md)
    (hinteger : value.integer ≠ 224)
    (hprovided : family.select value.int ≠ none →
      (value.integer = 256 ∨ value.integer = 384 ∨ value.integer = 512) ∧ environment.Provides) :
    FamilyMeets evp hash (family.members stem) (sha family evp) environment (value :: args) := by
  constructor
  · intro initialises
    cases hselect : family.select value.int with
    | none =>
      rw [sha_refused hselect]
      exact fun heq => nomatch heq
    | some md =>
      have hprovides := (hprovided (fun hnone => nomatch hselect.symm.trans hnone)).2
      rw [sha_selected hselect]
      exact (digestWith_ends_iff hlawful md value args).mpr hprovides initialises
  · intro value' args' heq member hmember hlength named hnamed initialises
    cases heq
    have hname : evp.getDigestbyname (named.text.map cString) = some member.md := by
      rw [hnamed]
      exact hnames member hmember
    rw [sha_selected (select_member hmember hlength hinteger), digest_named hlawful hname]
  · intro value' args' heq member hmember hlength
    cases heq
    have hselect := select_member hmember hlength hinteger
    have hprovides := (hprovided (fun hnone => nomatch hselect.symm.trans hnone)).2
    rw [sha_selected hselect]
    exact digestWith_hashes hlawful hprovides member.md value args
  · intro value' args' heq hother initialises
    cases heq
    cases hselect : family.select value.int with
    | none => exact ⟨_, sha_refused hselect _⟩
    | some md =>
      have hlength := (hprovided (fun hnone => nomatch hselect.symm.trans hnone)).1
      obtain ⟨member, hmember, heq⟩ := exists_member family stem hlength
      exact absurd heq (hother member hmember)

theorem familyMeets_iff (hlawful : evp.hasher.Lawful hash)
    (hnames : ∀ member ∈ family.members stem,
      evp.getDigestbyname (some (cString member.name)) = some member.md) :
    FamilyMeets evp hash (family.members stem) (sha family evp) environment argv ↔
      FamilyProvided family environment argv := by
  cases argv with
  | nil => exact iff_of_false (fun h => h.ends true rfl) id
  | cons value args =>
    constructor
    · intro hmeets
      have hinteger := hmeets.integer_ne
      exact ⟨hinteger, hmeets.provided hlawful hinteger⟩
    · rintro ⟨hinteger, hprovided⟩
      exact familyMeets_of_provided hlawful hnames hinteger hprovided

end Families

end Agreement

/-- The three functions do what they are for exactly where there is an argument, there is memory, and the
length is neither 224 nor one that `sha2` and `sha3` take for another one. -/
theorem digests_agree (evp : Evp μ σ) (hash : μ → Bytes → Bytes) (hlawful : evp.hasher.Lawful hash)
    (hnames : NamesMembers evp) (environment : Environment σ) (argv : List Value) :
    (DigestMeets evp hash environment argv ↔ DigestProvided evp environment argv) ∧
      (FamilyMeets evp hash (sha2Members evp) (sha2 evp) environment argv ↔
        FamilyProvided (sha2Family evp) environment argv) ∧
      (FamilyMeets evp hash (sha3Members evp) (sha3 evp) environment argv ↔
        FamilyProvided (sha3Family evp) environment argv) := by
  have hcnames : ∀ member ∈ sha2Members evp ++ sha3Members evp,
      evp.getDigestbyname (some (cString member.name)) = some member.md := by
    intro member hmember
    rw [cString_name hmember]
    exact hnames member hmember
  refine ⟨digestMeets_iff hlawful, familyMeets_iff hlawful ?_, familyMeets_iff hlawful ?_⟩
  · exact fun member hmember => hcnames member (List.mem_append_left _ hmember)
  · exact fun member hmember => hcnames member (List.mem_append_right _ hmember)

/-- The hash function as far as SHA-256 of `abc` goes. -/
def hashOfAbc (md data : Bytes) : Bytes :=
  if md = cstr "SHA256" ∧ data = cstr "abc" then
    [0xba, 0x78, 0x16, 0xbf, 0x8f, 0x01, 0xcf, 0xea, 0x41, 0x41, 0x40, 0xde, 0x5d, 0xae, 0x22, 0x23,
      0xb0, 0x03, 0x61, 0xa3, 0x96, 0x17, 0x7a, 0x9c, 0xb4, 0x10, 0xff, 0x61, 0xf2, 0x00, 0x15, 0xad]
  else []

/-- Algorithms that are known by their names. -/
def namedEvp (hash : Bytes → Bytes → Bytes) : Evp Bytes (Bytes × Bytes) where
  sha224 := cstr "SHA224"
  sha256 := cstr "SHA256"
  sha384 := cstr "SHA384"
  sha512 := cstr "SHA512"
  sha3_224 := cstr "SHA3-224"
  sha3_256 := cstr "SHA3-256"
  sha3_384 := cstr "SHA3-384"
  sha3_512 := cstr "SHA3-512"
  getDigestbyname name := name
  hasher := Hasher.collecting hash

/-- A text, or a number by its digits. -/
def Value.ofString (s : String) (integer : Int) : Value where
  text := some (cstr s)
  integer := integer
  blob := cstr s

/-- A thread that has not hashed anything yet. -/
def newThread : Environment (Bytes × Bytes) where
  ctx := some ([], [])
  initialises := true
  memory := true

theorem namedEvp_names (hash : Bytes → Bytes → Bytes) : NamesMembers (namedEvp hash) := by
  intro member hmember
  rcases List.mem_append.mp hmember with hmember | hmember
  · rcases mem_members_iff.mp hmember with rfl | rfl | rfl | rfl <;> rfl
  · rcases mem_members_iff.mp hmember with rfl | rfl | rfl | rfl <;> rfl

theorem digests_agree_abc :
    FamilyMeets (namedEvp hashOfAbc) hashOfAbc (sha2Members (namedEvp hashOfAbc))
      (sha2 (namedEvp hashOfAbc)) newThread
      [.ofString "256" 256, .ofString "a" 0, .ofString "bc" 0] := by
  apply (digests_agree (namedEvp hashOfAbc) hashOfAbc (Hasher.collecting_lawful hashOfAbc)
    (namedEvp_names hashOfAbc) newThread _).2.1.mpr
  exact ⟨by decide, fun _ => ⟨Or.inl rfl, nofun, rfl⟩⟩

/-- Without an argument the functions read one; 224 is refused, 226 is taken for 224, and lengths count
modulo 2^32. -/
theorem digests_disagree :
    ¬ DigestMeets (namedEvp hashOfAbc) hashOfAbc newThread [] ∧
      ∀ length ∈ [Value.ofString "224" 224, .ofString "226" 226, .ofString "4294967552" (2 ^ 32 + 256)],
        ¬ FamilyMeets (namedEvp hashOfAbc) hashOfAbc (sha2Members (namedEvp hashOfAbc))
          (sha2 (namedEvp hashOfAbc)) newThread [length, .ofString "abc" 0] := by
  constructor
  · exact fun h => h.ends true rfl
  · intro length hlength h
    have hinteger := h.integer_ne
    have hprovided := h.provided (Hasher.collecting_lawful hashOfAbc) hinteger
    simp only [List.mem_cons, List.not_mem_nil, or_false] at hlength
    rcases hlength with rfl | rfl | rfl
    · exact hinteger rfl
    · exact absurd (hprovided (by decide)).1 (by decide)
    · exact absurd (hprovided (by decide)).1 (by decide)

end Ysqlite3.Digest
