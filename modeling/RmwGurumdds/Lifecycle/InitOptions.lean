import RmwGurumdds.Lifecycle.ContextImpl

/-!
# Init options

`rmw_init` keeps a copy of the options it is given in the context. `rmw_init_options_copy` puts the
copy together in a temporary and assigns it to the destination in the end. The security options are
copied beside it, into the destination itself, and the assignment overwrites them: what was copied
is lost, and the temporary's zero-initialised ones stay (`rmwInitOptionsCopy_ok`). So a copy is one
exactly if there was nothing to lose (`init_options_copied_iff`).

`rcutils_strdup` and `rmw_security_options_copy` belong to other packages. They are parameters, as
is the type of the discovery options, which are handed on as a whole.
-/

namespace Lifecycle

open Rmw

/-- A string in memory: where it stands, and what it says. -/
structure CString where
  address : Handle
  text : String
deriving DecidableEq, Repr

/-- `rmw_security_enforcement_policy_t`. -/
inductive SecurityEnforcementPolicy where
  | permissive
  | enforce
deriving DecidableEq, Repr

/-- `rmw_security_options_t`. -/
structure SecurityOptions where
  enforceSecurity : SecurityEnforcementPolicy
  securityRootPath : Option CString
deriving DecidableEq, Repr

/-- `rmw_get_zero_initialized_security_options`. -/
def SecurityOptions.zero : SecurityOptions where
  enforceSecurity := .permissive
  securityRootPath := none

/-- `rcutils_allocator_t`: pointers to its functions, and to its state. -/
structure Allocator where
  allocate : Option Handle
  deallocate : Option Handle
  reallocate : Option Handle
  zeroAllocate : Option Handle
  state : Option Handle
deriving DecidableEq, Repr

/-- `rcutils_allocator_is_valid`. -/
def Allocator.isValid (a : Allocator) : Bool :=
  a.allocate.isSome && a.deallocate.isSome && a.reallocate.isSome && a.zeroAllocate.isSome

/-- `rcutils_get_zero_initialized_allocator`. -/
def Allocator.zero : Allocator where
  allocate := none
  deallocate := none
  reallocate := none
  zeroAllocate := none
  state := none

/-- `rmw_init_options_t`. -/
structure InitOptions (δ : Type) where
  instanceId : BitVec 64
  implementationIdentifier : Option String
  domainId : BitVec 64
  securityOptions : SecurityOptions
  discoveryOptions : δ
  enclave : Option CString
  allocator : Allocator
  impl : Option Handle

variable {δ : Type}

/-- `rmw_get_zero_initialized_init_options`. -/
def InitOptions.zero (discoveryOptions : δ) : InitOptions δ where
  instanceId := 0
  implementationIdentifier := none
  domainId := 0
  securityOptions := .zero
  discoveryOptions := discoveryOptions
  enclave := none
  allocator := .zero
  impl := none

/-- `RMW_GURUMDDS_ID`. -/
def rmwGurumddsId : String := "rmw_gurumdds_cpp"

/-- What the code here uses of rcutils and rmw. A function that writes to a destination is given
what is there. `mismatch` is the message that `RMW_CHECK_TYPE_IDENTIFIERS_MATCH` sets of an argument
and its identifier. -/
structure Copiers where
  mismatch : String → Option String → String
  strdup : Option CString → Allocator → Option CString
  securityOptionsCopy : SecurityOptions → Allocator → SecurityOptions → RmwRet × SecurityOptions

/-- How a call ends that has a destination. -/
structure Ended (τ : Type) where
  ret : RmwRet
  errorMsg : Option String
  dst : τ

/-- `rmw_init_options_copy`. -/
def rmwInitOptionsCopy (lib : Copiers) (src dst : InitOptions δ) : Ended (InitOptions δ) :=
  if src.implementationIdentifier = none then
    { ret := .invalidArgument, errorMsg := some "source init option is not initialized", dst }
  else if src.implementationIdentifier ≠ some rmwGurumddsId then
    { ret := .incorrectRmwImplementation
      errorMsg := some (lib.mismatch "src" src.implementationIdentifier)
      dst }
  else if dst.implementationIdentifier ≠ none then
    { ret := .invalidArgument
      errorMsg := some "destination init option is not zero-initialized"
      dst }
  else if !src.allocator.isValid then
    { ret := .invalidArgument, errorMsg := none, dst }
  else
    let tmp := { src with
      securityOptions := .zero
      enclave := lib.strdup src.enclave src.allocator }
    if tmp.enclave = none ∧ src.enclave ≠ none then
      { ret := .badAlloc, errorMsg := some "failed to copy init option enclave", dst }
    else
      let (ret, securityOptions) :=
        lib.securityOptionsCopy src.securityOptions src.allocator dst.securityOptions
      let dst := { dst with securityOptions }
      if ret ≠ .ok then { ret, errorMsg := none, dst }
      -- The temporary takes the place of everything in the destination.
      else { ret := .ok, errorMsg := none, dst := tmp }

/-! ## Contexts -/

/-- What `rmw_init` sets of `rmw_context_impl_t`. -/
structure InitialImpl where
  isShutdown : Bool
  serviceMappingBasic : Bool
deriving DecidableEq, Repr

/-- `rmw_context_t`. -/
structure Context (δ : Type) where
  instanceId : BitVec 64
  implementationIdentifier : Option String
  options : InitOptions δ
  actualDomainId : BitVec 64
  impl : Option InitialImpl

/-- `rmw_get_zero_initialized_context`. -/
def Context.zero (discoveryOptions : δ) : Context δ where
  instanceId := 0
  implementationIdentifier := none
  options := .zero discoveryOptions
  actualDomainId := 0
  impl := none

/-- `RMW_DEFAULT_DOMAIN_ID`. -/
def defaultDomainId : BitVec 64 := BitVec.allOnes 64

/-- What `rmw_init` finds: memory for the implementation, the factory of participants, and the
variable `RMW_GURUMDDS_REQUEST_REPLY_MAPPING`. -/
structure Surroundings where
  newImpl : Bool
  getFactory : Bool
  mapping : Option String
deriving DecidableEq, Repr

/-- `rmw_init`. `zero` are the zero-initialised discovery options. -/
def rmwInit (lib : Copiers) (env : Surroundings) (zero : δ) (options : InitOptions δ)
    (context : Context δ) : Ended (Context δ) :=
  if options.implementationIdentifier = none then
    { ret := .invalidArgument, errorMsg := some "init option is not initialized", dst := context }
  else if options.enclave = none then
    { ret := .invalidArgument, errorMsg := some "expected non-null enclave", dst := context }
  else if options.implementationIdentifier ≠ some rmwGurumddsId then
    { ret := .incorrectRmwImplementation
      errorMsg := some (lib.mismatch "options" options.implementationIdentifier)
      dst := context }
  else if context.implementationIdentifier ≠ none then
    { ret := .invalidArgument, errorMsg := some "context is not zero-initialized", dst := context }
  else if !env.newImpl then
    -- No code was set to say so.
    { ret := .ok, errorMsg := some "failed to allocate rmw context impl", dst := .zero zero }
  else
    let copied := rmwInitOptionsCopy lib options context.options
    if copied.ret ≠ .ok then
      { ret := copied.ret, errorMsg := copied.errorMsg, dst := .zero zero }
    else if !env.getFactory then
      { ret := .error
        errorMsg := some "failed to get domain participant factory"
        dst := .zero zero }
    else
      { ret := .ok
        errorMsg := none
        dst := {
          instanceId := options.instanceId
          implementationIdentifier := some rmwGurumddsId
          options := copied.dst
          actualDomainId := if options.domainId ≠ defaultDomainId then options.domainId else 0
          impl := some {
            isShutdown := false
            serviceMappingBasic := env.mapping = some "basic" } } }

/-! ## Copies -/

/-- The same text at another place, or none for none. -/
def OwnCopy : Option CString → Option CString → Prop
  | none, none => True
  | some src, some dst => dst.text = src.text ∧ dst.address ≠ src.address
  | _, _ => False

/-- Security options with a root path of their own. -/
structure SecurityOptions.CopyOf (src dst : SecurityOptions) : Prop where
  enforceSecurity : dst.enforceSecurity = src.enforceSecurity
  securityRootPath : OwnCopy src.securityRootPath dst.securityRootPath

/-- Every field is equal, and every string is its own. -/
structure InitOptions.CopyOf (src dst : InitOptions δ) : Prop where
  instanceId : dst.instanceId = src.instanceId
  implementationIdentifier : dst.implementationIdentifier = src.implementationIdentifier
  domainId : dst.domainId = src.domainId
  securityOptions : src.securityOptions.CopyOf dst.securityOptions
  discoveryOptions : dst.discoveryOptions = src.discoveryOptions
  enclave : OwnCopy src.enclave dst.enclave
  allocator : dst.allocator = src.allocator
  impl : dst.impl = src.impl

/-- The others make faithful copies, or fail without effect. -/
structure Copiers.Faithful (lib : Copiers) : Prop where
  strdup_null : ∀ a, lib.strdup none a = none
  strdup : ∀ src a dst, lib.strdup (some src) a = some dst → OwnCopy (some src) (some dst)
  copies : ∀ src a dst dst', lib.securityOptionsCopy src a dst = (.ok, dst') → src.CopyOf dst'
  fails : ∀ src a dst ret dst', lib.securityOptionsCopy src a dst = (ret, dst') → ret ≠ .ok →
    dst' = dst

/-- Options of this implementation. -/
structure InitOptions.Initialised (src : InitOptions δ) : Prop where
  identifier : src.implementationIdentifier = some rmwGurumddsId
  allocator : src.allocator.isValid = true

/-- The enclave and the security options of the source can be copied. -/
structure Copiers.Succeeds (lib : Copiers) (src : InitOptions δ) : Prop where
  strdup : src.enclave ≠ none → lib.strdup src.enclave src.allocator ≠ none
  securityOptionsCopy :
    (lib.securityOptionsCopy src.securityOptions src.allocator .zero).1 = .ok

/-- What a copy is to be: equal, or still zero-initialised. -/
structure Copied (src : InitOptions δ) (zero : δ) (copied : Ended (InitOptions δ)) : Prop where
  succeeds : copied.ret = .ok → src.CopyOf copied.dst
  fails : copied.ret ≠ .ok → copied.dst = .zero zero

section Copies

variable {lib : Copiers} {src : InitOptions δ}

theorem SecurityOptions.copyOf_zero_iff {src : SecurityOptions} :
    src.CopyOf .zero ↔ src = .zero := by
  constructor
  · rintro ⟨policy, path⟩
    obtain ⟨enforceSecurity, securityRootPath⟩ := src
    cases securityRootPath with
    | none =>
      have same : enforceSecurity = .permissive := policy.symm
      rw [same]
      rfl
    | some _ => exact path.elim
  · rintro rfl
    exact ⟨rfl, trivial⟩

/-- Of initialised options to zero-initialised ones: what is left are the calls that may fail. -/
theorem rmwInitOptionsCopy_eq (initialised : src.Initialised) (zero : δ) :
    rmwInitOptionsCopy lib src (.zero zero) =
      if lib.strdup src.enclave src.allocator = none ∧ src.enclave ≠ none then
        { ret := .badAlloc
          errorMsg := some "failed to copy init option enclave"
          dst := .zero zero }
      else
        let copied := lib.securityOptionsCopy src.securityOptions src.allocator .zero
        if copied.1 ≠ .ok then
          { ret := copied.1
            errorMsg := none
            dst := { InitOptions.zero zero with securityOptions := copied.2 } }
        else {
          ret := .ok
          errorMsg := none
          dst := { src with
            securityOptions := .zero
            enclave := lib.strdup src.enclave src.allocator } } := by
  have identifier : src.implementationIdentifier ≠ none := by simp [initialised.identifier]
  have own : ¬ src.implementationIdentifier ≠ some rmwGurumddsId :=
    not_not_intro initialised.identifier
  have fresh : ¬ (InitOptions.zero zero).implementationIdentifier ≠ none := not_not_intro rfl
  have valid : ¬ (!src.allocator.isValid) = true := by simp [initialised.allocator]
  unfold rmwInitOptionsCopy
  rw [if_neg identifier, if_neg own, if_neg fresh, if_neg valid]
  rfl

/-- A copy that succeeds has the security options of the temporary. -/
theorem rmwInitOptionsCopy_ok (initialised : src.Initialised) (zero : δ)
    (succeeds : lib.Succeeds src) :
    rmwInitOptionsCopy lib src (.zero zero) = {
      ret := .ok
      errorMsg := none
      dst := { src with
        securityOptions := .zero
        enclave := lib.strdup src.enclave src.allocator } } := by
  have copied : ¬ (lib.strdup src.enclave src.allocator = none ∧ src.enclave ≠ none) := by
    rintro ⟨null, there⟩
    exact succeeds.strdup there null
  rw [rmwInitOptionsCopy_eq initialised, if_neg copied]
  exact if_neg (not_not_intro succeeds.securityOptionsCopy)

/-- A copy that fails leaves the destination as it was. -/
theorem rmwInitOptionsCopy_error (faithful : lib.Faithful) (initialised : src.Initialised)
    (zero : δ) (fails : ¬ lib.Succeeds src) :
    (rmwInitOptionsCopy lib src (.zero zero)).ret ≠ .ok ∧
      (rmwInitOptionsCopy lib src (.zero zero)).dst = .zero zero := by
  rw [rmwInitOptionsCopy_eq initialised]
  by_cases copied : lib.strdup src.enclave src.allocator = none ∧ src.enclave ≠ none
  · rw [if_pos copied]
    exact ⟨nofun, rfl⟩
  · rw [if_neg copied]
    have secured : (lib.securityOptionsCopy src.securityOptions src.allocator .zero).1 ≠ .ok := by
      intro ok
      exact fails ⟨fun there null => copied ⟨null, there⟩, ok⟩
    have unchanged := faithful.fails _ _ _ _ _ rfl secured
    dsimp only
    rw [if_pos secured]
    refine ⟨secured, ?_⟩
    rw [unchanged]
    rfl

/-- The enclave of a copy is its own. -/
theorem ownCopy_strdup (faithful : lib.Faithful) (succeeds : lib.Succeeds src) :
    OwnCopy src.enclave (lib.strdup src.enclave src.allocator) := by
  cases enclave : src.enclave with
  | none =>
    rw [faithful.strdup_null]
    trivial
  | some text =>
    have there : src.enclave ≠ none := by simp [enclave]
    obtain ⟨own, copied⟩ := Option.ne_none_iff_exists'.mp (succeeds.strdup there)
    rw [enclave] at copied
    rw [copied]
    exact faithful.strdup _ _ _ copied

/-- **A copy is one exactly if it fails or there were no security settings to lose.** -/
theorem copied_iff (faithful : lib.Faithful) (initialised : src.Initialised) (zero : δ) :
    Copied src zero (rmwInitOptionsCopy lib src (.zero zero)) ↔
      (lib.Succeeds src → src.securityOptions = .zero) := by
  by_cases succeeds : lib.Succeeds src
  · rw [rmwInitOptionsCopy_ok initialised zero succeeds]
    constructor
    · intro copied _
      exact SecurityOptions.copyOf_zero_iff.mp (copied.succeeds rfl).securityOptions
    · intro none
      refine ⟨fun _ => ?_, fun failed => absurd rfl failed⟩
      exact {
        instanceId := rfl
        implementationIdentifier := rfl
        domainId := rfl
        securityOptions := SecurityOptions.copyOf_zero_iff.mpr (none succeeds)
        discoveryOptions := rfl
        enclave := ownCopy_strdup faithful succeeds
        allocator := rfl
        impl := rfl }
  · obtain ⟨failed, unchanged⟩ := rmwInitOptionsCopy_error faithful initialised zero succeeds
    exact iff_of_true ⟨fun ok => absurd ok failed, fun _ => unchanged⟩ fun s => absurd s succeeds

/-- The context that `rmw_init` leaves, if it has an implementation, has the security settings that
were passed in. -/
def Carried (options : InitOptions δ) (started : Ended (Context δ)) : Prop :=
  started.ret = .ok → started.dst.impl ≠ none →
    options.securityOptions.CopyOf started.dst.options.securityOptions

/-- `rmw_init` gets as far as a context. -/
structure Starts (lib : Copiers) (env : Surroundings) (options : InitOptions δ) : Prop where
  enclave : options.enclave ≠ none
  newImpl : env.newImpl = true
  copies : lib.Succeeds options
  getFactory : env.getFactory = true

/-- A context that is made has the security options of the temporary. -/
theorem rmwInit_ok (initialised : src.Initialised) (env : Surroundings) (zero : δ)
    (starts : Starts lib env src) :
    (rmwInit lib env zero src (.zero zero)).ret = .ok ∧
      (rmwInit lib env zero src (.zero zero)).dst.impl ≠ none ∧
      (rmwInit lib env zero src (.zero zero)).dst.options.securityOptions = .zero := by
  have copied := rmwInitOptionsCopy_ok initialised zero starts.copies
  have identifier : src.implementationIdentifier ≠ none := by simp [initialised.identifier]
  have own : ¬ src.implementationIdentifier ≠ some rmwGurumddsId :=
    not_not_intro initialised.identifier
  have same : (Context.zero zero).options = .zero zero := rfl
  unfold rmwInit
  rw [same, copied, if_neg identifier, if_neg starts.enclave, if_neg own,
    if_neg (by simp [Context.zero]), if_neg (by simp [starts.newImpl])]
  dsimp only
  rw [if_neg (not_not_intro rfl), if_neg (by simp [starts.getFactory])]
  exact ⟨rfl, nofun, rfl⟩

/-- Otherwise there is no context. -/
theorem rmwInit_none (faithful : lib.Faithful) (initialised : src.Initialised)
    (env : Surroundings) (zero : δ) (not : ¬ Starts lib env src) :
    (rmwInit lib env zero src (.zero zero)).dst.impl = none := by
  have same : (Context.zero zero).options = .zero zero := rfl
  unfold rmwInit
  split
  · rfl
  · split
    · rfl
    · rename_i enclave
      split
      · rfl
      · split
        · rfl
        · split
          · rfl
          · rename_i newImpl
            dsimp only
            split
            · rfl
            · rename_i copied
              split
              · rfl
              · rename_i getFactory
                refine absurd ⟨enclave, by simpa using newImpl, ?_, by simpa using getFactory⟩ not
                by_contra fails
                rw [same] at copied
                exact copied (rmwInitOptionsCopy_error faithful initialised zero fails).1

/-- **A context carries the security settings exactly if there is none or there were no settings to
lose.** -/
theorem carried_iff (faithful : lib.Faithful) (initialised : src.Initialised)
    (env : Surroundings) (zero : δ) :
    Carried src (rmwInit lib env zero src (.zero zero)) ↔
      (Starts lib env src → src.securityOptions = .zero) := by
  by_cases starts : Starts lib env src
  · obtain ⟨ok, impl, lost⟩ := rmwInit_ok initialised env zero starts
    unfold Carried
    rw [lost, SecurityOptions.copyOf_zero_iff]
    exact ⟨fun carried _ => carried ok impl, fun none _ _ => none starts⟩
  · refine iff_of_true (fun _ impl => ?_) fun s => absurd s starts
    exact absurd (rmwInit_none faithful initialised env zero starts) impl

end Copies

/-- **Copied init options equal their source exactly if the copy fails or the source has the
security options it was initialised with**, and so it is with the options of a context. -/
theorem init_options_copied_iff (lib : Copiers) (faithful : lib.Faithful) (src : InitOptions δ)
    (initialised : src.Initialised) (env : Surroundings) (zero : δ) :
    (Copied src zero (rmwInitOptionsCopy lib src (.zero zero)) ↔
      (lib.Succeeds src → src.securityOptions = .zero)) ∧
    (Carried src (rmwInit lib env zero src (.zero zero)) ↔
      (Starts lib env src → src.securityOptions = .zero)) :=
  ⟨copied_iff faithful initialised zero, carried_iff faithful initialised env zero⟩

section Sample

/-- A string at the next address. -/
def duplicate (s : CString) : CString := { s with address := s.address + 1 }

/-- Copies that find memory. -/
def growingCopiers : Copiers where
  mismatch name _ := name ++ " implementation does not match rmw implementation"
  strdup src _ := src.map duplicate
  securityOptionsCopy src _ _ :=
    (.ok, { src with securityRootPath := src.securityRootPath.map duplicate })

theorem ownCopy_duplicate (src : Option CString) : OwnCopy src (src.map duplicate) := by
  cases src with
  | none => trivial
  | some text => exact ⟨rfl, Nat.succ_ne_self _⟩

theorem growingCopiers_faithful : growingCopiers.Faithful where
  strdup_null _ := rfl
  strdup src _ dst copied := by
    have own := ownCopy_duplicate (some src)
    rwa [show (some src).map duplicate = some dst from copied] at own
  copies src _ _ dst' copied := by
    obtain rfl := (Prod.mk.inj copied).2
    exact ⟨rfl, ownCopy_duplicate _⟩
  fails _ _ _ ret _ copied failed := absurd (Prod.mk.inj copied).1.symm failed

/-- Options that ask for security. -/
def securedOptions : InitOptions Unit where
  instanceId := 1
  implementationIdentifier := some rmwGurumddsId
  domainId := 0
  securityOptions := {
    enforceSecurity := .enforce
    securityRootPath := some { address := 10, text := "/keys" } }
  discoveryOptions := ()
  enclave := some { address := 20, text := "/" }
  allocator := {
    allocate := some 1
    deallocate := some 2
    reallocate := some 3
    zeroAllocate := some 4
    state := none }
  impl := none

theorem securedOptions_initialised : securedOptions.Initialised := ⟨rfl, rfl⟩

/-- Surroundings in which `rmw_init` finds everything. -/
def calm : Surroundings := { newImpl := true, getFactory := true, mapping := none }

theorem init_options_copied_iff_secured :
    (Copied securedOptions () (rmwInitOptionsCopy growingCopiers securedOptions (.zero ())) ↔
      (growingCopiers.Succeeds securedOptions → securedOptions.securityOptions = .zero)) ∧
    (Carried securedOptions (rmwInit growingCopiers calm () securedOptions (.zero ())) ↔
      (Starts growingCopiers calm securedOptions → securedOptions.securityOptions = .zero)) :=
  init_options_copied_iff growingCopiers growingCopiers_faithful securedOptions
    securedOptions_initialised calm ()

/-- The copy returns `RMW_RET_OK` with a permissive mode and no root path. So does `rmw_init`. -/
theorem security_lost :
    ¬ Copied securedOptions () (rmwInitOptionsCopy growingCopiers securedOptions (.zero ())) ∧
      ¬ Carried securedOptions (rmwInit growingCopiers calm () securedOptions (.zero ())) := by
  refine ⟨fun copied => ?_, fun carried => ?_⟩
  · have mode : SecurityEnforcementPolicy.permissive = .enforce :=
      (copied.succeeds rfl).securityOptions.enforceSecurity
    cases mode
  · have mode : SecurityEnforcementPolicy.permissive = .enforce :=
      (carried rfl nofun).enforceSecurity
    cases mode

end Sample

end Lifecycle
