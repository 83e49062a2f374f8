/-! The FNV-1a hash of octets, in 64 bits. -/

namespace EventTally

def fnvStart : UInt64 := 0xcbf29ce484222325

def fnvPrime : UInt64 := 0x100000001b3

def fnvStep (h : UInt64) (b : UInt8) : UInt64 := (h ^^^ b.toUInt64) * fnvPrime

def fnv (bytes : List UInt8) : UInt64 := bytes.foldl fnvStep fnvStart

end EventTally
