/-!
# TCP flags

Eight flags share one octet, the first of them in its lowest bit. Written out, the flags that are
set stand in that order with plus signs between them.
-/

namespace VirtualNet.Tcp

/-- The flags of a TCP header, from the lowest bit up. -/
structure Flags where
  fin : Bool
  syn : Bool
  rst : Bool
  psh : Bool
  ack : Bool
  urg : Bool
  ece : Bool
  cwr : Bool
  deriving DecidableEq, Repr

namespace Flags

/-- No flag set. -/
def none : Flags := ⟨false, false, false, false, false, false, false, false⟩

/-- The flags from the lowest bit up. -/
def toList (flags : Flags) : List Bool :=
  [flags.fin, flags.syn, flags.rst, flags.psh, flags.ack, flags.urg, flags.ece, flags.cwr]

/-- The octet that holds the flags. -/
def toOctet (flags : Flags) : UInt8 :=
  flags.toList.foldr (fun flag octet => octet * 2 + flag.toUInt8) 0

/-- The flags that an octet holds. -/
def ofOctet (octet : UInt8) : Flags where
  fin := octet % 2 = 1
  syn := octet / 2 % 2 = 1
  rst := octet / 4 % 2 = 1
  psh := octet / 8 % 2 = 1
  ack := octet / 16 % 2 = 1
  urg := octet / 32 % 2 = 1
  ece := octet / 64 % 2 = 1
  cwr := octet / 128 = 1

/-- The names of the flags from the lowest bit up. -/
def names : List String := ["FIN", "SYN", "RST", "PSH", "ACK", "URG", "ECE", "CWR"]

instance : ToString Flags where
  toString flags :=
    "+".intercalate (((flags.toList.zip names).filter (·.1)).map (·.2))

/-- The octet of the flags read from an octet is that octet. -/
@[simp]
theorem toOctet_ofOctet (octet : UInt8) : (ofOctet octet).toOctet = octet := by
  have everyOctet :
      ∀ number : Fin 256, (ofOctet (UInt8.ofNat number)).toOctet = UInt8.ofNat number := by
    decide +kernel
  simpa using everyOctet ⟨octet.toNat, octet.toNat_lt⟩

/-- The flags read from the octet of flags are those flags. -/
@[simp]
theorem ofOctet_toOctet (flags : Flags) : ofOctet flags.toOctet = flags := by
  obtain ⟨fin, syn, rst, psh, ack, urg, ece, cwr⟩ := flags
  revert fin syn rst psh ack urg ece cwr
  decide +kernel

end Flags

end VirtualNet.Tcp
