import Wyrmroot.Rrc.Format

/-!
# Product profiles

`wyrmroot-rrc-manifest/src/product.rs`: what a product demands of a manifest
that was parsed, its exact roles and the edges between them, and of the closure
that is expected and the material that was observed. The accessors are those of
the manifest; they panic on a record that was not validated.
-/

namespace Wyrmroot.Rrc

open Outcome
open Bootfs (ArchivePath)

def initPath : String := "system/init"
def expectedRoleCount : Nat := 5
def expectedRoleReadyCount : Nat := 4

abbrev Identity : Type := Vector UInt8 32

structure ExpectedObservedIdentity where
  expected : Identity
  observed : Identity
deriving DecidableEq

structure ProductReceiptIdentities where
  manifest : ExpectedObservedIdentity
  bootfs : ExpectedObservedIdentity
deriving DecidableEq

inductive ImmutableDependencyKind where
  | executable
  | config
  | runtime
  | firmware
deriving DecidableEq, Ord

def ImmutableDependencyKind.fromManifest : DependencyKind → Option ImmutableDependencyKind
  | .executable => some .executable
  | .config => some .config
  | .runtime => some .runtime
  | .firmware => some .firmware
  | .roleReady => none

inductive ExpectedClosureUse where
  | systemInit
  | initDependency (kind : ImmutableDependencyKind)
  | roleExecutable (role : RoleId)
  | roleDependency (owner : RoleId) (kind : ImmutableDependencyKind)
deriving DecidableEq, Ord

structure ExpectedClosureEntry where
  path : String
  identity : Identity
  usage : ExpectedClosureUse
deriving DecidableEq

inductive MaterialResidence where
  | retainedBootfs
  | persistentRoot
deriving DecidableEq

structure ObservedRetainedMaterial where
  path : String
  identity : Identity
  residence : MaterialResidence
deriving DecidableEq

structure Wyr1aProductProfile where
  receipts : ProductReceiptIdentities
  expectedClosure : List ExpectedClosureEntry
  observedMaterials : List ObservedRetainedMaterial
deriving DecidableEq

abbrev Wyr1bProductProfile : Type := Wyr1aProductProfile
abbrev Wyr1cProductProfile : Type := Wyr1aProductProfile
abbrev R1ProductProfile : Type := Wyr1cProductProfile

structure Wyr1eProductProfile where
  base : Wyr1aProductProfile
  productionWyrmshIdentity : Identity
deriving DecidableEq

inductive ProductError where
  | structuralParse (e : ParseError)
  | zeroManifestReceiptIdentity
  | manifestReceiptIdentityMismatch
  | zeroBootfsReceiptIdentity
  | bootfsReceiptIdentityMismatch
  | zeroProductionWyrmshIdentity
  | productionWyrmshIdentityMismatch
  | wrongRoleSet
  | wrongRoleFlags
  | wrongRoleActivationProfile
  | wrongRoleReadyEdges
  | earlyDependsOnUnavailableRole
  | invalidExpectedPath
  | noncanonicalExpectedClosure
  | zeroExpectedMaterialIdentity
  | conflictingExpectedIdentity
  | wrongSystemInitPath
  | wrongInitDependencyPath
  | missingOrDuplicateSystemInit
  | wrongClosureRoleOwnership
  | wrongClosurePath
  | wrongClosureRoleDependency
  | missingRoleMaterial (role : RoleId)
  | roleIdentityMismatch (role : RoleId)
  | missingRoleDependencyMaterial
  | invalidObservedPath
  | noncanonicalObservedInventory
  | rootBackedMaterial
  | zeroObservedMaterialIdentity
  | unexpectedObservedMaterial
  | missingObservedMaterial
  | observedMaterialIdentityMismatch
deriving DecidableEq

abbrev ProductCheck := Outcome ProductError

/-- The value of an accessor, which has no error. -/
def accessed {α : Type} : ManifestCheck α → ProductCheck α
  | .ok a => .ok a
  | _ => .panic

/-- `iter().any(..)`. -/
def anyOf {α : Type} (p : α → ProductCheck Bool) : List α → ProductCheck Bool
  | [] => pure false
  | a :: rest => do if ← p a then pure true else anyOf p rest

/-- A loop that carries nothing. -/
def checkEach {α : Type} (check : α → ProductCheck Unit) : List α → ProductCheck Unit
  | [] => pure ()
  | a :: rest => do
      check a
      checkEach check rest

/-! ## Receipts and paths -/

def validateReceipts (receipts : ProductReceiptIdentities) : ProductCheck Unit := do
  rejectIf (isZeroIdentity receipts.manifest.expected.toList
    || isZeroIdentity receipts.manifest.observed.toList) .zeroManifestReceiptIdentity
  rejectIf (receipts.manifest.expected ≠ receipts.manifest.observed) .manifestReceiptIdentityMismatch
  rejectIf (isZeroIdentity receipts.bootfs.expected.toList
    || isZeroIdentity receipts.bootfs.observed.toList) .zeroBootfsReceiptIdentity
  rejectIf (receipts.bootfs.expected ≠ receipts.bootfs.observed) .bootfsReceiptIdentityMismatch

def validateClosurePath (path : List UInt8) : Outcome Unit Unit :=
  if maxPathBytes < path.length then .err ()
  else do
    let _ ← (ArchivePath.new path).mapErr fun _ => ()
    pure ()

namespace Manifest

/-! ## Roles -/

def expectedProfile (registryProfile devmgrProfile wyrmshProfile : StartupProfile) :
    RoleId → Activation × StartupProfile
  | .registryd => (.early, registryProfile)
  | .devmgr => (.early, devmgrProfile)
  | .uart16550d => (.deviceBound, .retained)
  | .consoled => (.consoleBound, .retained)
  | .wyrmsh => (.consoleBound, wyrmshProfile)

/-- A turn of the loop over the roles and the ids they have to have. -/
def checkProductRole (registryProfile devmgrProfile wyrmshProfile : StartupProfile) (role : Role)
    (expectedId : RoleId) : ProductCheck Unit := do
  rejectIf ((← accessed role.id) ≠ expectedId) .wrongRoleSet
  rejectIf (!(← accessed role.required) || !(← accessed role.requiresReady)) .wrongRoleFlags
  let activation ← accessed role.activation
  let profile ← accessed role.startupProfile
  rejectIf ((activation, profile) ≠
    expectedProfile registryProfile devmgrProfile wyrmshProfile expectedId) .wrongRoleActivationProfile

def validateProductRoles (self : Manifest)
    (registryProfile devmgrProfile wyrmshProfile : StartupProfile) : ProductCheck Unit := do
  rejectIf (self.roleCount ≠ expectedRoleCount) .wrongRoleSet
  checkEach (fun (role, expectedId) =>
    checkProductRole registryProfile devmgrProfile wyrmshProfile role expectedId)
    (self.roles.zip [.registryd, .devmgr, .uart16550d, .consoled, .wyrmsh])

/-! ## Edges between roles -/

/-- `self.role(id).is_some_and(|role| p(role.activation()))`. -/
def roleActivation (self : Manifest) (id : RoleId) (p : Activation → Bool) : ProductCheck Bool := do
  match ← accessed (self.role id) with
  | none => pure false
  | some role => pure (p (← accessed role.activation))

/-- `1 << 0` to `1 << 3`. -/
def readyBit : RoleId → RoleId → ProductCheck UInt8
  | .devmgr, .registryd => .ok 1
  | .uart16550d, .devmgr => .ok 2
  | .consoled, .uart16550d => .ok 4
  | .wyrmsh, .consoled => .ok 8
  | _, _ => .err .wrongRoleReadyEdges

/-- The loop over the edges: the bits that were observed, and the count. -/
def roleReadyEdges (self : Manifest) (observed : UInt8) (count : Nat) :
    List DependencyEdge → ProductCheck (UInt8 × Nat)
  | [] => pure (observed, count)
  | edge :: rest => do
      if (← accessed edge.kind) ≠ .roleReady then self.roleReadyEdges observed count rest
      else do
        let target ← okOr (← accessed edge.targetRole) .wrongRoleReadyEdges
        let owner ← accessed edge.owner
        let early ← self.roleActivation owner fun activation => activation = .early
        let unavailable ← if early then self.roleActivation target fun activation => activation ≠ .early
          else pure false
        rejectIf unavailable .earlyDependsOnUnavailableRole
        let bit ← readyBit owner target
        rejectIf (observed &&& bit ≠ 0) .wrongRoleReadyEdges
        self.roleReadyEdges (observed ||| bit) (count + 1) rest

def validateProductRoleEdges (self : Manifest) : ProductCheck Unit := do
  let (observed, count) ← self.roleReadyEdges 0 0 self.edges
  rejectIf (count ≠ expectedRoleReadyCount || observed ≠ 0b1111) .wrongRoleReadyEdges

/-! ## The expected closure -/

/-- What the loop over the expected entries carries. -/
structure ClosureScan where
  previous : Option (List UInt8 × ExpectedClosureUse × Identity)
  initCount : Nat
deriving DecidableEq

/-- An entry against the one before. -/
def checkSuccessor (previous : Option (List UInt8 × ExpectedClosureUse × Identity))
    (path : List UInt8) (entry : ExpectedClosureEntry) : ProductCheck Unit :=
  match previous with
  | none => .ok ()
  | some (previousPath, previousUsage, previousIdentity) =>
      match compare path previousPath with
      | .lt => .err .noncanonicalExpectedClosure
      | .eq =>
          if (compare entry.usage previousUsage).isLE then .err .noncanonicalExpectedClosure
          else if entry.identity ≠ previousIdentity then .err .conflictingExpectedIdentity
          else .ok ()
      | .gt => .ok ()

/-- Whether the edge is this dependency of the role. -/
def edgeDeclares (owner : RoleId) (kind : ImmutableDependencyKind) (path : String)
    (edge : DependencyEdge) : ProductCheck Bool := do
  if (← accessed edge.owner) ≠ owner then pure false
  else if (← accessed edge.targetPath) ≠ some path then pure false
  else pure (ImmutableDependencyKind.fromManifest (← accessed edge.kind) = some kind)

/-- The use of an entry, and the count of inits behind it. -/
def checkUsage (self : Manifest) (entry : ExpectedClosureEntry) (initCount : Nat) : ProductCheck Nat :=
  match entry.usage with
  | .systemInit => do
      rejectIf (entry.path ≠ initPath) .wrongSystemInitPath
      pure (initCount + 1)
  | .initDependency _ => do
      rejectIf (entry.path = initPath) .wrongInitDependencyPath
      pure initCount
  | .roleExecutable role => do
      let manifestRole ← okOr (← accessed (self.role role)) .wrongClosureRoleOwnership
      rejectIf ((← accessed manifestRole.path) ≠ entry.path) .wrongClosurePath
      rejectIf ((← accessed manifestRole.executableIdentity) ≠ entry.identity.toList)
        (.roleIdentityMismatch role)
      pure initCount
  | .roleDependency owner kind => do
      rejectIf (!(← anyOf (edgeDeclares owner kind entry.path) self.edges)) .wrongClosureRoleDependency
      pure initCount

/-- A turn of the loop over the expected entries. -/
def checkExpected (self : Manifest) (entry : ExpectedClosureEntry) (scan : ClosureScan) :
    ProductCheck ClosureScan := do
  let path := utf8 entry.path
  (validateClosurePath path).mapErr fun _ => ProductError.invalidExpectedPath
  rejectIf (isZeroIdentity entry.identity.toList) .zeroExpectedMaterialIdentity
  checkSuccessor scan.previous path entry
  let initCount ← self.checkUsage entry scan.initCount
  pure { previous := some (path, entry.usage, entry.identity), initCount }

def checkAllExpected (self : Manifest) (scan : ClosureScan) :
    List ExpectedClosureEntry → ProductCheck ClosureScan
  | [] => pure scan
  | entry :: rest => do self.checkAllExpected (← self.checkExpected entry scan) rest

def checkRoleMaterial (expected : List ExpectedClosureEntry) (role : Role) : ProductCheck Unit := do
  let path ← accessed role.path
  let id ← accessed role.id
  rejectIf (!expected.any fun entry => entry.path = path && entry.usage = .roleExecutable id)
    (.missingRoleMaterial id)

def checkDependencyMaterial (expected : List ExpectedClosureEntry) (edge : DependencyEdge) :
    ProductCheck Unit := do
  match ← accessed edge.targetPath with
  | none => pure ()
  | some path =>
      let kind ← okOr (ImmutableDependencyKind.fromManifest (← accessed edge.kind))
        .wrongClosureRoleDependency
      let owner ← accessed edge.owner
      rejectIf (!expected.any fun entry => entry.path = path && entry.usage = .roleDependency owner kind)
        .missingRoleDependencyMaterial

def validateExpectedClosure (self : Manifest) (expected : List ExpectedClosureEntry) :
    ProductCheck Unit := do
  let scan ← self.checkAllExpected ⟨none, 0⟩ expected
  rejectIf (scan.initCount ≠ 1) .missingOrDuplicateSystemInit
  checkEach (checkRoleMaterial expected) self.roles
  checkEach (checkDependencyMaterial expected) self.edges

end Manifest

/-! ## The observed materials -/

/-- The loop over the observed materials. -/
def checkObserved (expected : List ExpectedClosureEntry) (previousPath : Option (List UInt8)) :
    List ObservedRetainedMaterial → ProductCheck Unit
  | [] => pure ()
  | material :: rest => do
      let path := utf8 material.path
      (validateClosurePath path).mapErr fun _ => ProductError.invalidObservedPath
      rejectIf (previousPath.any fun previous => (compare path previous).isLE)
        .noncanonicalObservedInventory
      rejectIf (material.residence ≠ .retainedBootfs) .rootBackedMaterial
      rejectIf (isZeroIdentity material.identity.toList) .zeroObservedMaterialIdentity
      rejectIf (!expected.any fun entry => entry.path = material.path) .unexpectedObservedMaterial
      checkObserved expected (some path) rest

def checkMaterial (observed : List ObservedRetainedMaterial) (entry : ExpectedClosureEntry) :
    ProductCheck Unit := do
  let material ← okOr (observed.find? fun material => material.path = entry.path)
    .missingObservedMaterial
  rejectIf (material.identity ≠ entry.identity) .observedMaterialIdentityMismatch

def validateObservedMaterials (expected : List ExpectedClosureEntry)
    (observed : List ObservedRetainedMaterial) : ProductCheck Unit := do
  checkObserved expected none observed
  checkEach (checkMaterial observed) expected

/-! ## The products -/

namespace Manifest

/-- What the products before the shell have in common; they differ in two startup profiles. -/
def validateRetainedProduct (self : Manifest) (registryProfile devmgrProfile : StartupProfile)
    (profile : Wyr1aProductProfile) : ProductCheck Unit := do
  validateReceipts profile.receipts
  self.validateProductRoles registryProfile devmgrProfile .retained
  self.validateProductRoleEdges
  self.validateExpectedClosure profile.expectedClosure
  validateObservedMaterials profile.expectedClosure profile.observedMaterials

def validateWyr1aProduct (self : Manifest) (profile : Wyr1aProductProfile) : ProductCheck Unit :=
  self.validateRetainedProduct .earlyBootStub .earlyBootStub profile

def validateWyr1bProduct (self : Manifest) (profile : Wyr1bProductProfile) : ProductCheck Unit :=
  self.validateRetainedProduct .bootstrapRegistry .earlyBootStub profile

def validateWyr1cProduct (self : Manifest) (profile : Wyr1cProductProfile) : ProductCheck Unit :=
  self.validateRetainedProduct .bootstrapRegistry .deviceCoordinator profile

def validateR1Product (self : Manifest) (profile : R1ProductProfile) : ProductCheck Unit :=
  self.validateWyr1cProduct profile

def validateWyr1eProduct (self : Manifest) (profile : Wyr1eProductProfile) : ProductCheck Unit := do
  rejectIf (isZeroIdentity profile.productionWyrmshIdentity.toList) .zeroProductionWyrmshIdentity
  validateReceipts profile.base.receipts
  self.validateProductRoles .bootstrapRegistry .deviceCoordinator .wyrmsh
  let wyrmsh ← okOr (← accessed (self.role .wyrmsh)) .wrongRoleSet
  rejectIf ((← accessed wyrmsh.executableIdentity) ≠ profile.productionWyrmshIdentity.toList)
    .productionWyrmshIdentityMismatch
  self.validateProductRoleEdges
  self.validateExpectedClosure profile.base.expectedClosure
  validateObservedMaterials profile.base.expectedClosure profile.base.observedMaterials

end Manifest

end Wyrmroot.Rrc
