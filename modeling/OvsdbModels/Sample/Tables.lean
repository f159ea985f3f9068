/-
  OvsdbModels/Sample/Tables.lean
  ==============================
  Small tables that show every kind of column, and a database that holds them.
-/
import OvsdbModels.Schema.Database

namespace OvsdbModels.Sample

def oneOf (values : List String) : BaseType :=
  (BaseType.plain .string).withAllowed (values.map .string)

def columnOf (type : ColumnType) : Column := { type }

def optional (base : BaseType) : Column :=
  columnOf ((ColumnType.scalar base).withBounds 0 (.bounded 1))

def settings : Column := columnOf (.map (.plain .string) (.plain .string))

/-- A table with single values, an optional enumeration, a set of references and a map. -/
def bridge : Table := .ofColumns
  [("name", .plain .string),
    ("ports", columnOf (.set ((BaseType.plain .uuid).withRef "Port" .strong))),
    ("fail_mode", optional (oneOf ["standalone", "secure"])),
    ("external_ids", settings),
    ("datapath_id", optional (.plain .string)),
    ("stp_enable", .plain .boolean)]

/-- A table with an enumeration and a map to references. -/
def qos : Table := .ofColumns
  [("type", columnOf (.scalar (oneOf ["linux-htb", "linux-hfsc"]))),
    ("queues", columnOf (.map (.plain .integer) ((BaseType.plain .uuid).withRef "Queue" .strong))),
    ("other_config", settings)]

def nat : Table := .ofColumns
  [("type", columnOf (.scalar (oneOf ["dnat", "snat", "dnat_and_snat"]))),
    ("external_ip", .plain .string),
    ("logical_ip", .plain .string),
    ("external_mac", optional (.plain .string)),
    ("options", settings)]

/-- A table with an enumeration of integers, a real column and a bounded set. -/
def meter : Table := .ofColumns
  [("level", columnOf (.scalar ((BaseType.plain .integer).withAllowed
      [.integer 1, .integer 2, .integer 3]))),
    ("rate", .plain .real),
    ("bands", columnOf ((ColumnType.set (.plain .integer)).withBounds 1 (.bounded 4)))]

/-- A database with all sample tables and the tables that they refer to. -/
def database : Database where
  name := "Sample"
  version := "1.0.0"
  tables := .ofList
    [("Bridge", bridge), ("QoS", qos), ("NAT", nat), ("Meter", meter),
      ("Port", .ofColumns [("name", .plain .string)]),
      ("Queue", .ofColumns [("dscp", .plain .integer)])]

end OvsdbModels.Sample
