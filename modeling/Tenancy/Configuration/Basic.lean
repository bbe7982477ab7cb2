import Tenancy.Builder.Setting

/-!
# Configurations

A configuration is everything that can be set on a builder, written down once, table by table.
What it leaves open keeps its default. It is carried out by turning it into settings.
-/

namespace Tenancy

namespace Configuration

structure BlacklistSection where
  values : List String := []
  routine : Option String := none
  constraint : Option String := none
deriving DecidableEq, Repr, Inhabited

structure PrimaryKeySection where
  ownershipName : Option String := none
  columns : Std.ExtTreeMap String String := ∅
deriving DecidableEq, Inhabited

structure PolicySection where
  name : String := ""
  tenantColumn : Option String := none
  createColumn : Bool := false
  skipDefault : Bool := false
  blacklistName : Option String := none
  primaryKey : Option PrimaryKeySection := none
deriving DecidableEq, Inhabited

/-- A foreign key that is kept inside the tenant. The table it refers to lies in the schema of the
table that it is declared on. -/
structure ForeignKeySection where
  constraint : String := ""
  table : String := ""
  mapping : Std.ExtTreeMap String String := ∅
deriving DecidableEq, Inhabited

structure TableSection where
  name : String := ""
  /-- The schema of the table; the default schema if none is named. -/
  schema : Option String := none
  policy : Option PolicySection := none
  foreignKeys : List ForeignKeySection := []
deriving DecidableEq, Inhabited

structure NameLengthSection where
  max : Option UInt64 := none
  min : Option UInt64 := none
  disabled : Bool := false
deriving DecidableEq, Repr, Inhabited

inductive Placement where
  | atBeginning
  | atEnd
  /-- The place that the section names apart. -/
  | custom
deriving DecidableEq, Repr, Inhabited

structure CustomSection where
  placement : Placement
  label : Option String := none
  create : String
  drop : Option String := none
  checks : Option (List String) := none
deriving DecidableEq, Repr, Inhabited

end Configuration

structure Configuration where
  defaultSchema : Option String := none
  tenantType : Option String := none
  tenantSetting : Option String := none
  currentTenantName : Option String := none
  assignTenantName : Option String := none
  isCurrentTenantName : Option String := none
  authorityName : Option String := none
  forceOwner : Option Bool := none
  defaultTenantColumn : Option String := none
  grantee : Option String := none
  defaultEverywhere : Option Bool := none
  blacklist : Option Configuration.BlacklistSection := none
  tables : List Configuration.TableSection := []
  nameLength : Option Configuration.NameLengthSection := none
  custom : List Configuration.CustomSection := []
deriving DecidableEq, Inhabited

namespace Configuration

/-! ## What the sections set -/

def PolicySection.settings (p : PolicySection) (t : Table) : List Setting :=
  let primaryKey := p.primaryKey.getD {}
  [.policy (.exactly t) primaryKey.columns p.tenantColumn p.name] ++
    (if p.createColumn then [.createColumn (.exactly t)] else []) ++
    (if p.skipDefault then [.skipDefault (.exactly t)] else []) ++
    (p.blacklistName.map (.blacklistName (.exactly t))).toList ++
    (primaryKey.ownershipName.map (.ownershipName (.exactly t))).toList

/-- The table of the section, in `defaultSchema` if it names no schema. -/
def TableSection.table (s : TableSection) (defaultSchema : Option String) : Table where
  schema := s.schema.or defaultSchema
  name := s.name

/-- What a table sets: its policy and then its foreign keys. -/
def TableSection.settings (s : TableSection) (defaultSchema : Option String) : List Setting :=
  let table := s.table defaultSchema
  (s.policy.map (·.settings table)).getD [] ++
    s.foreignKeys.map fun key =>
      .sameTenant (.exactly table) (.exactly { table with name := key.table }) key.mapping
        key.constraint

def NameLengthSection.settings (s : NameLengthSection) : List Setting :=
  (s.max.map .maxNameLength).toList ++ (s.min.map .minNameLength).toList ++
    [.skipNameBounds s.disabled]

def CustomSection.position (s : CustomSection) : Except ConfigurationFault Position :=
  match s.placement, s.label with
  | .atBeginning, _ => .ok .atBeginning
  | .atEnd, _ => .ok .atEnd
  | .custom, some label => .ok (.custom label)
  | .custom, none => .error .unnamedPosition

def CustomSection.change (s : CustomSection) : Change where
  create := s.create
  drop := s.drop.getD Change.trivialStatement
  checks := s.checks.getD [Change.trivialStatement]

def CustomSection.setting (s : CustomSection) : Except ConfigurationFault Setting := do
  return .custom (← s.position) s.change

/-- What the configuration sets apart from tables, bounds on names, and changes of the caller's
own. -/
def generalSettings (c : Configuration) : List Setting :=
  (c.tenantType.map .tenantType).toList ++
    (c.tenantSetting.map .tenantSetting).toList ++
    (c.currentTenantName.map .currentTenantName).toList ++
    (c.assignTenantName.map .assignTenantName).toList ++
    (c.isCurrentTenantName.map .isCurrentTenantName).toList ++
    (c.authorityName.map .authorityName).toList ++
    (c.forceOwner.map .forceOwner).toList ++
    (c.defaultTenantColumn.map .defaultTenantColumn).toList ++
    (c.grantee.map .grantee).toList ++
    (c.defaultEverywhere.map .defaultEverywhere).toList ++
    (c.blacklist.map fun s => .blacklist (.ofValues s.values s.routine s.constraint)).toList

/-- Everything that the configuration sets on a builder with the given default schema, in order. -/
def settings (c : Configuration) (defaultSchema : Option String) :
    Except ConfigurationFault (List Setting) := do
  let custom ← c.custom.mapM (·.setting)
  return c.generalSettings ++ c.tables.flatMap (·.settings defaultSchema) ++
    (c.nameLength.map (·.settings)).getD [] ++ custom

/-! ## Carrying a configuration out -/

/-- Sets everything on a builder. The default schema of a builder is fixed from its start, so
tables that name no schema lie in the builder's, whatever the configuration says. -/
def apply (c : Configuration) (b : Builder) : Except Error Builder := do
  let settings ← (c.settings b.request.defaultSchema).mapError .configuration
  return b.setAll settings

/-- A new builder in the configuration's default schema with everything set. -/
def toBuilder (c : Configuration) : Except Error Builder := c.apply (.inSchema c.defaultSchema)

end Configuration

end Tenancy
