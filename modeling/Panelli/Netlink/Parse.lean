import Panelli.Netlink.Attr

namespace panelli.netlink

/-- The bits of a type that are no flags. -/
def NLA_TYPE_MASK : UInt16 := 0x3FFF

def Attr.type (a : Attr) : UInt16 := a.nla_type &&& NLA_TYPE_MASK

/-- `nla_parse`: what the table has for a type up to the last, which is the last attribute
of that type. -/
def nla_parse (maxtype : UInt16) (as : List Attr) (attrtype : UInt16) : Option Attr :=
  if attrtype ≤ maxtype then (as.filter (·.type == attrtype)).getLast? else none

section

variable {maxtype attrtype : UInt16} {a : Attr} {back : List Attr}

@[simp] theorem Attr.type_mk (attrtype : UInt16) (data : List UInt8) :
    Attr.type ⟨attrtype, data⟩ = attrtype &&& NLA_TYPE_MASK := rfl

/-- An attribute is found if no other of its type is behind it. -/
theorem nla_parse_append_cons (front : List Attr) (hmax : attrtype ≤ maxtype) (htype : a.type = attrtype)
    (hback : ∀ other ∈ back, other.type ≠ attrtype) :
    nla_parse maxtype (front ++ a :: back) attrtype = some a := by
  have hnone : back.filter (·.type == attrtype) = [] := by
    rw [List.filter_eq_nil_iff]
    intro other hother
    simpa using hback other hother
  rw [nla_parse, if_pos hmax, List.filter_append, List.filter_cons_of_pos (by simpa using htype), hnone,
    List.getLast?_concat]

/-- Where no type comes twice, each attribute is the one that is found by its type. -/
theorem nla_parse_of_mem {as : List Attr} (hnodup : (as.map Attr.type).Nodup) (ha : a ∈ as) (hmax : a.type ≤ maxtype) :
    nla_parse maxtype as a.type = some a := by
  obtain ⟨front, back, rfl⟩ := List.append_of_mem ha
  apply nla_parse_append_cons front hmax rfl
  intro other hother htype
  rw [List.map_append, List.map_cons] at hnodup
  have hrest := (List.nodup_append.mp hnodup).2.1
  exact (List.nodup_cons.mp hrest).1 (htype ▸ List.mem_map_of_mem hother)

end

end panelli.netlink
