/-!
# Address ranges

An inclusive range of seven-bit bus addresses, as the scan for a display walks it. `mem_toList`
ties the walk to the bounds.
-/

namespace StatusDisplay

/-- The addresses from `first` to `last`, both included; none if `last` is the smaller. -/
structure AddressRange where
  first : UInt8
  last : UInt8
  deriving DecidableEq, Repr

namespace AddressRange

/-- Addresses of the output expanders that carry a character display. -/
def lcd : AddressRange := ⟨0x20, 0x27⟩

/-- Addresses of bitmap panels, and of a second family of output expanders. -/
def oled : AddressRange := ⟨0x38, 0x3f⟩

/-- The greatest seven-bit address. -/
def maxAddress : UInt8 := 0x7f

/-- Whether an address lies in the range. -/
def contains (range : AddressRange) (address : UInt8) : Bool :=
  range.first ≤ address && address ≤ range.last

/-- Whether the range has an address, and none above the seven-bit space. -/
def isValid (range : AddressRange) : Bool :=
  range.first ≤ range.last && range.last ≤ maxAddress

/-- The addresses in ascending order. -/
def toList (range : AddressRange) : List UInt8 :=
  (List.range' range.first.toNat (range.last.toNat + 1 - range.first.toNat)).map UInt8.ofNat

theorem contains_iff {range : AddressRange} {address : UInt8} :
    range.contains address = true ↔
      range.first.toNat ≤ address.toNat ∧ address.toNat ≤ range.last.toNat := by
  simp [contains, UInt8.le_iff_toNat_le]

theorem mem_toList {range : AddressRange} {address : UInt8} :
    address ∈ range.toList ↔ range.contains address = true := by
  rw [contains_iff]
  have bound := range.last.toNat_lt
  constructor
  · intro h
    obtain ⟨n, hn, rfl⟩ := List.mem_map.1 h
    obtain ⟨low, high⟩ := List.mem_range'_1.1 hn
    have : (UInt8.ofNat n).toNat = n := by
      rw [UInt8.toNat_ofNat']
      exact Nat.mod_eq_of_lt (by omega)
    omega
  · rintro ⟨low, high⟩
    exact List.mem_map.2 ⟨address.toNat, List.mem_range'_1.2 ⟨low, by omega⟩, by simp⟩

/-- The walk goes up, so it comes to no address twice. -/
theorem pairwise_toList (range : AddressRange) : range.toList.Pairwise (· < ·) := by
  have bound := range.last.toNat_lt
  rw [toList, List.pairwise_map]
  refine List.Pairwise.imp_of_mem ?_ (List.pairwise_lt_range' 1)
  intro low high memLow memHigh less
  have below := List.mem_range'_1.1 memLow
  have above := List.mem_range'_1.1 memHigh
  rw [UInt8.lt_iff_toNat_lt, UInt8.toNat_ofNat', UInt8.toNat_ofNat',
    Nat.mod_eq_of_lt (by omega), Nat.mod_eq_of_lt (by omega)]
  exact less

end AddressRange

end StatusDisplay
