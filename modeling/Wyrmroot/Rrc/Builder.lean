import Wyrmroot.Rrc.Format

/-!
# What a manifest is built from

The specifications of roles and edges in `wyrmroot-rrc-manifest/src/builder.rs`,
and the words and strings a record has of them.
-/

namespace Wyrmroot.Rrc

open Outcome

structure RoleSpec where
  id : RoleId
  required : Bool
  requiresReady : Bool
  activation : Activation
  startupProfile : StartupProfile
  path : String
  justification : String
  executableIdentity : Vector UInt8 32
deriving DecidableEq

structure DependencySpec where
  owner : RoleId
  kind : DependencyKind
  targetRole : Option RoleId
  targetPath : Option String
deriving DecidableEq

/-! ## Words -/

/-- `self as u32`. -/
def RoleId.toU32 (self : RoleId) : UInt32 := UInt32.ofNat self.toNat

/-- `self as u16`. -/
def Activation.toU16 : Activation → UInt16
  | .early => 1
  | .deviceBound => 2
  | .consoleBound => 3

/-- `self as u16`. -/
def StartupProfile.toU16 : StartupProfile → UInt16
  | .retained => 0
  | .earlyBootStub => 1
  | .bootstrapRegistry => 2
  | .deviceCoordinator => 3
  | .wyrmsh => 4

/-- `self as u16`. -/
def DependencyKind.toU16 : DependencyKind → UInt16
  | .executable => 1
  | .config => 2
  | .runtime => 3
  | .firmware => 4
  | .roleReady => 5

/-- `u32::from(role.required) | (u32::from(role.requires_ready) << 1)`. -/
def RoleSpec.flags (self : RoleSpec) : UInt32 :=
  self.required.toUInt32 ||| self.requiresReady.toUInt32 <<< 1

/-- `edge.target_role.map_or(0, |role| role as u32)`. -/
def DependencySpec.targetWord (self : DependencySpec) : UInt32 :=
  (self.targetRole.map RoleId.toU32).getD 0

/-- `edge.target_path.unwrap_or("").as_bytes()`. -/
def DependencySpec.pathBytes (self : DependencySpec) : List UInt8 := utf8 (self.targetPath.getD "")

def RoleSpec.pathBytes (self : RoleSpec) : List UInt8 := utf8 self.path

def RoleSpec.justificationBytes (self : RoleSpec) : List UInt8 := utf8 self.justification

end Wyrmroot.Rrc
