import Wyrmroot.Rrc.Builder

/-!
# The text of a manifest

`manifestText` is what a manifest of these roles and edges reads: header, role
records, edge records, strings.
-/

namespace Wyrmroot.Rrc

open Outcome

/-! ## Texts -/

def roleText (role : RoleSpec) (cursor first count : Nat) : List UInt8 :=
  u32 role.id.toU32 ++ (u32 role.flags ++ (u16 1 ++ (u16 role.activation.toU16 ++ (u16 1 ++
    (u16 role.startupProfile.toU16 ++ (u32 (UInt32.ofNat cursor) ++
    (u16 (UInt16.ofNat role.pathBytes.length) ++ (blank 2 ++
    (u32 (UInt32.ofNat (cursor + role.pathBytes.length)) ++
    (u16 (UInt16.ofNat role.justificationBytes.length) ++ (blank 2 ++ (u16 (UInt16.ofNat first) ++
    (u16 (UInt16.ofNat count) ++ (blank 4 ++ (role.executableIdentity.toList ++ blank 24)))))))))))))))

def edgeText (edge : DependencySpec) (cursor : Nat) : List UInt8 :=
  u32 edge.owner.toU32 ++ (u16 edge.kind.toU16 ++ (u16 1 ++ (u32 edge.targetWord ++
    (u32 (UInt32.ofNat cursor) ++ (u16 (UInt16.ofNat edge.pathBytes.length) ++ blank 14)))))

def RoleSpec.strings (role : RoleSpec) : List UInt8 := role.pathBytes ++ role.justificationBytes

/-- How many edges the role has. -/
def edgeCountOf (edges : List DependencySpec) (id : RoleId) : Nat :=
  (edges.filter fun edge => edge.owner = id).length

def rolesText (edges : List DependencySpec) (cursor first : Nat) : List RoleSpec → List UInt8
  | [] => []
  | role :: rest =>
      roleText role cursor first (edgeCountOf edges role.id) ++
        rolesText edges (cursor + role.strings.length) (first + edgeCountOf edges role.id) rest

def edgesText (cursor : Nat) : List DependencySpec → List UInt8
  | [] => []
  | edge :: rest => edgeText edge cursor ++ edgesText (cursor + edge.pathBytes.length) rest

def roleStrings (roles : List RoleSpec) : List UInt8 := roles.flatMap RoleSpec.strings

def edgeStrings (edges : List DependencySpec) : List UInt8 := edges.flatMap DependencySpec.pathBytes

def stringsAt (roleCount edgeCount : Nat) : Nat :=
  headerSize + roleCount * roleRecordSize + edgeCount * edgeRecordSize

def headerText (boot : Vector UInt8 32) (roleCount edgeCount stringBytes : Nat) : List UInt8 :=
  magic ++ (u16 major ++ (u16 minor ++ (u16 (UInt16.ofNat headerSize) ++
    (u16 (UInt16.ofNat roleRecordSize) ++ (u16 (UInt16.ofNat edgeRecordSize) ++ (blank 2 ++ (blank 4 ++
    (u32 (UInt32.ofNat (stringsAt roleCount edgeCount + stringBytes)) ++ (u16 (UInt16.ofNat roleCount) ++
    (u16 (UInt16.ofNat edgeCount) ++ (u32 (UInt32.ofNat stringBytes) ++
    (u32 (UInt32.ofNat headerSize) ++ (u32 (UInt32.ofNat (headerSize + roleCount * roleRecordSize)) ++
    (u32 (UInt32.ofNat (stringsAt roleCount edgeCount)) ++ (blank 4 ++ boot.toList)))))))))))))))

def manifestText (boot : Vector UInt8 32) (roles : List RoleSpec) (edges : List DependencySpec) :
    List UInt8 :=
  headerText boot roles.length edges.length (roleStrings roles ++ edgeStrings edges).length ++
    (rolesText edges 0 0 roles ++ edgesText (roleStrings roles).length edges) ++
    (roleStrings roles ++ edgeStrings edges)

end Wyrmroot.Rrc
