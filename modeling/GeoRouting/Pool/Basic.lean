import GeoRouting.Row.Basic

/-!
# Directional pools

A directional pool holds the rows of one owner name, in buckets by record type. The two
address buckets hold alias rows as well, so one bucket can give two record types.
-/

namespace GeoRouting

inductive Bucket where
  | ipv4 | ipv6 | mx | txt | srv | ptr | naptr | spf
deriving DecidableEq, Repr

namespace Bucket

/-- Every bucket in listing order. -/
def all : List Bucket := [.ipv4, .ipv6, .mx, .txt, .srv, .ptr, .naptr, .spf]

/-- The name of a bucket in data. -/
def name : Bucket → String
  | .ipv4 => "IPV4"
  | .ipv6 => "IPV6"
  | .mx => "MX"
  | .txt => "TXT"
  | .srv => "SRV"
  | .ptr => "PTR"
  | .naptr => "NAPTR"
  | .spf => "SPF"

/-- The name of a bucket in log lines. -/
def label : Bucket → String
  | .ipv4 => "Ipv4"
  | .ipv6 => "Ipv6"
  | .mx => "Mx"
  | .txt => "Txt"
  | .srv => "Srv"
  | .ptr => "Ptr"
  | .naptr => "Naptr"
  | .spf => "Spf"

/-- The number of the record type that a bucket is for. -/
def code : Bucket → UInt16
  | .ipv4 => 1
  | .ipv6 => 28
  | .mx => 15
  | .txt => 16
  | .srv => 33
  | .ptr => 12
  | .naptr => 35
  | .spf => 99

theorem mem_all (b : Bucket) : b ∈ all := by cases b <;> decide

theorem code_injective {a b : Bucket} (h : a.code = b.code) : a = b := by
  cases a <;> cases b <;> first | rfl | exact absurd h (by decide)

def ofCode? (code : UInt16) : Option Bucket := all.find? fun b => b.code == code

/-- The numbers assigned to record types. -/
def typeCodes : List (String × UInt16) :=
  [("A", 1), ("NS", 2), ("CNAME", 5), ("PTR", 12), ("MX", 15), ("TXT", 16), ("AAAA", 28),
    ("SRV", 33), ("NAPTR", 35), ("SPF", 99)]

/-- The bucket of a record type. Aliases have none of their own. -/
def ofType? (type : String) : Option Bucket := (typeCodes.lookup type).bind ofCode?

/-- The type of alias rows. -/
def aliasType : String := "CNAME"

/-- The buckets that can hold rows of a record type. -/
def holding (type : String) : List Bucket :=
  if type = aliasType then [.ipv4, .ipv6] else (ofType? type).toList

theorem holding_of_ne {type : String} (h : type ≠ aliasType) :
    holding type = (ofType? type).toList := if_neg h

/-- The layout of rows. Eight types have a bucket of their own, aliases are in both address
buckets, and rows of other types, name servers among them, are in none. -/
theorem holding_eq (type : String) :
    holding type =
      match type with
      | "A" => [.ipv4]
      | "AAAA" => [.ipv6]
      | "MX" => [.mx]
      | "TXT" => [.txt]
      | "SRV" => [.srv]
      | "PTR" => [.ptr]
      | "NAPTR" => [.naptr]
      | "SPF" => [.spf]
      | "CNAME" => [.ipv4, .ipv6]
      | _ => [] := by
  split
  case h_10 =>
    by_cases hns : type = "NS"
    · subst hns
      rfl
    · have hlookup : typeCodes.lookup type = none := by
        rw [List.lookup_eq_none_iff]
        simp_all [typeCodes]
      have halias : type ≠ aliasType := by assumption
      rw [holding_of_ne halias, ofType?, hlookup]
      rfl
  all_goals rfl

end Bucket

/-- How a pool chooses an answer. -/
inductive PoolKind where
  | geolocation | sourceIp
deriving DecidableEq, Repr

/-- A pool by the owner name of its rows. -/
structure Pool where
  name : String
  kind : PoolKind
deriving DecidableEq, Repr

/-- The provider that pool backends are reported under. -/
def Pool.provider : String := "ultradns"

/-- Where the rows of one group of one record are. -/
structure GroupCoordinates where
  zone : String
  name : String
  /-- The number of a bucket. -/
  type : UInt16
  group : String
deriving DecidableEq, Repr

end GeoRouting
