import SmartHome.Library.MemoryCursor

/-!
# The byte buffer of `bytebuffer.h`

The gateway runs on a little-endian host, so a value that is written through
`swap16`, `swap32` or `swap64` lies in memory most significant byte first. A writer
yields the bytes it stores at `*s`; the pointer moves by their number. A reader is a
parser over the memory that `*s` points into.
-/

namespace SmartHome.Bytebuffer

open SmartHome.Library.Bytes
open SmartHome.Library.MemoryCursor

set_option autoImplicit false

def bytebufferWritebyte (d : UInt8) : List UInt8 := [d]

def bytebufferWriteword (d : UInt16) : List UInt8 := toBytesBE 2 d.toNat

def bytebufferWritedword (d : UInt32) : List UInt8 := toBytesBE 4 d.toNat

def bytebufferWritemac (d : UInt64) : List UInt8 := toBytesBE 6 d.toNat

def bytebufferWritequadword (d : UInt64) : List UInt8 := toBytesBE 8 d.toNat

def bytebufferWritebytes (d : List UInt8) (len : Nat) : List UInt8 := d.take len

def bytebufferGetword (value : List UInt8) : UInt16 :=
  UInt16.ofNat (ofBytesBE (value.take 2))

def bytebufferGetdword (value : List UInt8) : UInt32 :=
  UInt32.ofNat (ofBytesBE (value.take 4))

def bytebufferGetquadword (value : List UInt8) : UInt64 :=
  UInt64.ofNat (ofBytesBE (value.take 8))

def bytebufferSkipbytes (count : Nat) : Parser Unit := Parser.skip count

def bytebufferReadbyte : Parser UInt8 := (·.headD 0) <$> Parser.take 1

def bytebufferReadword : Parser UInt16 := bytebufferGetword <$> Parser.take 2

def bytebufferReaddword : Parser UInt32 := bytebufferGetdword <$> Parser.take 4

def bytebufferReadquadword : Parser UInt64 := bytebufferGetquadword <$> Parser.take 8

def bytebufferReadbytes (len : Nat) : Parser (List UInt8) := Parser.take len

/-- `LO_UINT16`, `HI_UINT16` and `BUILD_UINT16` of the radio's headers. -/
def loUint16 (a : UInt16) : UInt8 := a.toUInt8

def hiUint16 (a : UInt16) : UInt8 := (a >>> 8).toUInt8

def buildUint16 (loByte hiByte : UInt8) : UInt16 := loByte.toUInt16 + (hiByte.toUInt16 <<< 8)

theorem lo_uint16_toNat (a : UInt16) : (loUint16 a).toNat = a.toNat % 256 := by
  simp [loUint16]

theorem hi_uint16_toNat (a : UInt16) : (hiUint16 a).toNat = a.toNat / 256 := by
  have bounded : a.toNat < 65536 := a.toNat_lt
  simp [hiUint16, Nat.shiftRight_eq_div_pow]
  omega

@[simp] theorem build_uint16_lo_hi (a : UInt16) : buildUint16 (loUint16 a) (hiUint16 a) = a := by
  apply UInt16.toNat_inj.mp
  have bounded : a.toNat < 65536 := a.toNat_lt
  simp [buildUint16, lo_uint16_toNat, hi_uint16_toNat, Nat.shiftLeft_eq]
  omega

@[simp] theorem lo_build_uint16 (loByte hiByte : UInt8) :
    loUint16 (buildUint16 loByte hiByte) = loByte := by
  apply UInt8.toNat_inj.mp
  simp [buildUint16, lo_uint16_toNat, Nat.shiftLeft_eq]

@[simp] theorem hi_build_uint16 (loByte hiByte : UInt8) :
    hiUint16 (buildUint16 loByte hiByte) = hiByte := by
  apply UInt8.toNat_inj.mp
  have low := loByte.toNat_lt
  have high := hiByte.toNat_lt
  simp [buildUint16, hi_uint16_toNat, Nat.shiftLeft_eq]
  omega

@[simp] theorem bytebuffer_writebyte_length (d : UInt8) : (bytebufferWritebyte d).length = 1 := rfl

@[simp] theorem bytebuffer_writeword_length (d : UInt16) :
    (bytebufferWriteword d).length = 2 := to_bytes_be_length 2 d.toNat

@[simp] theorem bytebuffer_writedword_length (d : UInt32) :
    (bytebufferWritedword d).length = 4 := to_bytes_be_length 4 d.toNat

@[simp] theorem bytebuffer_writemac_length (d : UInt64) :
    (bytebufferWritemac d).length = 6 := to_bytes_be_length 6 d.toNat

@[simp] theorem bytebuffer_writequadword_length (d : UInt64) :
    (bytebufferWritequadword d).length = 8 := to_bytes_be_length 8 d.toNat

theorem bytebuffer_getword_toNat (value : List UInt8) :
    (bytebufferGetword value).toNat = ofBytesBE (value.take 2) := by
  have bounded := of_bytes_be_lt (value.take 2)
  have width : 256 ^ (value.take 2).length ≤ 256 ^ 2 :=
    Nat.pow_le_pow_right (by decide) (List.length_take_le 2 value)
  rw [bytebufferGetword, UInt16.toNat_ofNat']
  exact Nat.mod_eq_of_lt (by omega)

theorem bytebuffer_getdword_toNat (value : List UInt8) :
    (bytebufferGetdword value).toNat = ofBytesBE (value.take 4) := by
  have bounded := of_bytes_be_lt (value.take 4)
  have width : 256 ^ (value.take 4).length ≤ 256 ^ 4 :=
    Nat.pow_le_pow_right (by decide) (List.length_take_le 4 value)
  rw [bytebufferGetdword, UInt32.toNat_ofNat']
  exact Nat.mod_eq_of_lt (by omega)

theorem bytebuffer_getquadword_toNat (value : List UInt8) :
    (bytebufferGetquadword value).toNat = ofBytesBE (value.take 8) := by
  have bounded := of_bytes_be_lt (value.take 8)
  have width : 256 ^ (value.take 8).length ≤ 256 ^ 8 :=
    Nat.pow_le_pow_right (by decide) (List.length_take_le 8 value)
  rw [bytebufferGetquadword, UInt64.toNat_ofNat']
  exact Nat.mod_eq_of_lt (by omega)

theorem bytebuffer_getword_append (value later : List UInt8) (complete : 2 ≤ value.length) :
    bytebufferGetword (value ++ later) = bytebufferGetword value := by
  rw [bytebufferGetword, List.take_append_of_le_length complete, bytebufferGetword]

theorem bytebuffer_getword_writeword (d : UInt16) (later : List UInt8) :
    bytebufferGetword (bytebufferWriteword d ++ later) = d := by
  apply UInt16.toNat_inj.mp
  have bounded : d.toNat < 256 ^ 2 := d.toNat_lt
  rw [bytebuffer_getword_toNat, bytebufferWriteword, List.take_left' (by simp), of_to_bytes_be,
    Nat.mod_eq_of_lt bounded]

theorem bytebuffer_getdword_writedword (d : UInt32) :
    bytebufferGetdword (bytebufferWritedword d) = d := by
  apply UInt32.toNat_inj.mp
  have bounded : d.toNat < 256 ^ 4 := d.toNat_lt
  rw [bytebufferGetdword, List.take_of_length_le (by simp), bytebufferWritedword, of_to_bytes_be,
    Nat.mod_eq_of_lt bounded, UInt32.ofNat_toNat]

theorem bytebuffer_getquadword_writequadword (d : UInt64) :
    bytebufferGetquadword (bytebufferWritequadword d) = d := by
  apply UInt64.toNat_inj.mp
  have bounded : d.toNat < 256 ^ 8 := d.toNat_lt
  rw [bytebufferGetquadword, List.take_of_length_le (by simp), bytebufferWritequadword,
    of_to_bytes_be, Nat.mod_eq_of_lt bounded, UInt64.ofNat_toNat]

end SmartHome.Bytebuffer
