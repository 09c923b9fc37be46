/-! # Fixed-width identifiers

`common.Address` and `common.Hash` are both 32-byte arrays (`common.AddressLength` is 32).
Go compares them with `==` and, where an order is needed, with `bytes.Compare`, i.e. as
big-endian unsigned integers. They are modelled as bit vectors of the same width, whose unsigned
order is exactly that byte order. -/

namespace Gtos

/-- `common.Address`: a 32-byte account identifier. -/
abbrev Address := BitVec 256

/-- `common.Hash`: a 32-byte digest (Keccak-256 throughout the repository). -/
abbrev Hash := BitVec 256

end Gtos
