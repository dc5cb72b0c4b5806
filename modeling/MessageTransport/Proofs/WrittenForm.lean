import MessageTransport.Proofs.Truncation

set_option autoImplicit false

namespace MessageTransport

namespace Field

/-- The length that the first bytes declare. -/
def declared (width : Nat) (bs : Bytes) : Nat := LittleEndian.value (bs.take width)

/-- The bytes of a text, as far as its length goes. -/
def content (bs : Bytes) : Bytes := (bs.drop 2).take (declared 2 bs)

end Field

end MessageTransport
