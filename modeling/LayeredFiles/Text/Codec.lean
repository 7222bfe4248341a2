import LayeredFiles.Text.CodePage
import LayeredFiles.Text.Quoted
/-
Module: LayeredFiles.Text.Codec
Layer: Text
Purpose: the encodings of text files. An encoding is found by its name, with case and punctuation
  ignored, among the twelve of one table; any other name is unknown. Encoding and decoding fail with the
  place and the reason of the first fault.
Main exports: Encoding, Encoding.find?, Encoding.encode, Encoding.decode, CodecFault,
  CodecFault.message
-/

namespace LayeredFiles.Text

/-- How texts are stored as bytes. The three encodings with a byte order mark write it always and
    expect it when reading (UTF-8 only drops it). -/
inductive Encoding where
  | utf8
  | utf8Marked
  | latin1
  | ascii
  | utf16Marked
  | utf16 (bigEndian : Bool)
  | utf32Marked
  | utf32 (bigEndian : Bool)
  | page (table : CodePage)
deriving DecidableEq, Repr

/-- Why a text has no bytes, or bytes have no text. -/
inductive CodecFault where
  /-- No encoding has this name. -/
  | unknownEncoding (name : String)
  /-- The name belongs to a transformation between byte strings. -/
  | notTextEncoding (name : String)
  /-- The encoding's name holds a NUL character. -/
  | nulInName
  /-- The characters from `start` on, `count` of them, have no bytes; `first` is the first. -/
  | unencodable (codec : String) (first : Char) (start count : Nat) (reason : String)
  /-- The bytes from `start` on, `count` of them, have no character; `first` is the first. -/
  | undecodable (codec : String) (first : UInt8) (start count : Nat) (reason : String)
  /-- A marked encoding was read from bytes without a byte order mark. -/
  | unmarked (codec : String)
deriving DecidableEq, Repr

/-- The wording of a codec fault. -/
def CodecFault.message : CodecFault → String
  | .unknownEncoding name => "unknown encoding: " ++ name
  | .notTextEncoding name =>
    quoted name ++ " is not a text encoding; use codecs.open() to handle arbitrary codecs"
  | .nulInName => "embedded null character"
  | .unencodable codec first start count reason =>
    quoted codec ++ " codec can't encode " ++
      (if count = 1 then
        "character '" ++ String.ofList (escapedCode first.toNat) ++ "' in position " ++ toString start
      else
        "characters in position " ++ toString start ++ "-" ++ toString (start + count - 1)) ++
      ": " ++ reason
  | .undecodable codec first start count reason =>
    quoted codec ++ " codec can't decode " ++
      (if count = 1 then
        "byte 0x" ++ String.ofList (hexDigits 2 first.toNat) ++ " in position " ++ toString start
      else
        "bytes in position " ++ toString start ++ "-" ++ toString (start + count - 1)) ++
      ": " ++ reason
  | .unmarked codec => codec ++ " stream does not start with BOM"

/-! ### Names -/

/-- The pieces of a name: runs of letters, digits and dots, in lower case. -/
def namePieces (current : List Char) : List Char → List (List Char)
  | [] => if current = [] then [] else [current.reverse]
  | c :: rest =>
    if c.isAlphanum || c = '.' then namePieces (c.toLower :: current) rest
    else if current = [] then namePieces [] rest
    else current.reverse :: namePieces [] rest

/-- A name with its punctuation made uniform. -/
def plainName (name : String) : String :=
  "_".intercalate ((namePieces [] name.toList).map String.ofList)

/-- Every accepted spelling of an encoding's name. -/
def encodingNames : List (Encoding × List String) :=
  [(.utf8, ["utf_8", "u8", "utf", "utf8", "utf8_ucs2", "utf8_ucs4", "cp65001"]),
   (.utf8Marked, ["utf_8_sig"]),
   (.latin1, ["latin_1", "iso8859_1", "8859", "cp819", "csisolatin1", "ibm819", "iso8859",
      "iso_8859_1", "iso_8859_1_1987", "iso_ir_100", "l1", "latin", "latin1"]),
   (.ascii, ["ascii", "646", "ansi_x3.4_1968", "ansi_x3.4_1986", "ansi_x3_4_1968", "cp367",
      "csascii", "ibm367", "iso646_us", "iso_646.irv_1991", "iso_ir_6", "us", "us_ascii"]),
   (.utf16Marked, ["utf_16", "u16", "utf16"]),
   (.utf16 false, ["utf_16_le", "unicodelittleunmarked", "utf_16le"]),
   (.utf16 true, ["utf_16_be", "unicodebigunmarked", "utf_16be"]),
   (.utf32Marked, ["utf_32", "u32", "utf32"]),
   (.utf32 false, ["utf_32_le", "utf_32le"]),
   (.utf32 true, ["utf_32_be", "utf_32be"]),
   (.page windows1252, ["cp1252", "1252", "windows_1252"]),
   (.page latin9, ["iso8859_15", "iso_8859_15", "l9", "latin9"])]

/-- Names of transformations between byte strings, which are no text encodings. -/
def byteTransformNames : List String :=
  ["base64_codec", "base64", "base_64", "bz2_codec", "bz2", "hex_codec", "hex", "quopri_codec",
   "quopri", "quoted_printable", "quotedprintable", "rot_13", "rot13", "uu_codec", "uu", "zlib_codec",
   "zip", "zlib"]

/-- The encoding of a name. -/
def Encoding.find? (name : String) : Except CodecFault Encoding :=
  let plain := plainName name
  match encodingNames.find? (fun e => e.2.contains plain) with
  | some e => .ok e.1
  | none =>
    .error (if byteTransformNames.contains plain then .notTextEncoding name
      else .unknownEncoding name)

/-! ### Writing -/

/-- The UTF-8 form of a character. -/
def utf8Bytes (c : Char) : List UInt8 :=
  let n := c.toNat
  if n < 0x80 then [.ofNat n]
  else if n < 0x800 then [.ofNat (0xC0 + n / 64), .ofNat (0x80 + n % 64)]
  else if n < 0x10000 then
    [.ofNat (0xE0 + n / 4096), .ofNat (0x80 + n / 64 % 64), .ofNat (0x80 + n % 64)]
  else
    [.ofNat (0xF0 + n / 262144), .ofNat (0x80 + n / 4096 % 64), .ofNat (0x80 + n / 64 % 64),
     .ofNat (0x80 + n % 64)]

/-- A number below 65536 as two bytes. -/
def wordBytes (bigEndian : Bool) (n : Nat) : List UInt8 :=
  let low := UInt8.ofNat n
  let high := UInt8.ofNat (n / 256)
  if bigEndian then [high, low] else [low, high]

/-- The UTF-16 form of a character; beyond 65535 it is a pair of surrogates. -/
def utf16Bytes (bigEndian : Bool) (c : Char) : List UInt8 :=
  let n := c.toNat
  if n < 0x10000 then wordBytes bigEndian n
  else wordBytes bigEndian (0xD800 + (n - 0x10000) / 1024) ++
    wordBytes bigEndian (0xDC00 + (n - 0x10000) % 1024)

/-- The UTF-32 form of a code point. -/
def utf32Bytes (bigEndian : Bool) (c : Char) : List UInt8 :=
  let low := wordBytes bigEndian (c.toNat % 65536)
  let high := wordBytes bigEndian (c.toNat / 65536)
  if bigEndian then high ++ low else low ++ high

/-- Encodes character by character; the first run of characters without bytes is the fault. -/
def encodeEach (codec reason : String) (byte? : Char → Option UInt8) :
    Nat → List Char → Except CodecFault (List UInt8)
  | _, [] => .ok []
  | start, c :: rest =>
    match byte? c with
    | some b =>
      match encodeEach codec reason byte? (start + 1) rest with
      | .ok bytes => .ok (b :: bytes)
      | .error fault => .error fault
    | none =>
      let run := (c :: rest).takeWhile (fun d => (byte? d).isNone)
      .error (.unencodable codec c start run.length reason)

/-- The byte of a character below `bound`. -/
def byteBelow (bound : Nat) (c : Char) : Option UInt8 :=
  if c.toNat < bound then some (.ofNat c.toNat) else none

/-- The bytes of a text. -/
def Encoding.encode (encoding : Encoding) (s : List Char) : Except CodecFault (List UInt8) :=
  match encoding with
  | .utf8 => .ok (s.flatMap utf8Bytes)
  | .utf8Marked => .ok ([0xEF, 0xBB, 0xBF] ++ s.flatMap utf8Bytes)
  | .latin1 => encodeEach "latin-1" "ordinal not in range(256)" (byteBelow 256) 0 s
  | .ascii => encodeEach "ascii" "ordinal not in range(128)" (byteBelow 128) 0 s
  | .utf16Marked => .ok ([0xFF, 0xFE] ++ s.flatMap (utf16Bytes false))
  | .utf16 bigEndian => .ok (s.flatMap (utf16Bytes bigEndian))
  | .utf32Marked => .ok ([0xFF, 0xFE, 0, 0] ++ s.flatMap (utf32Bytes false))
  | .utf32 bigEndian => .ok (s.flatMap (utf32Bytes bigEndian))
  | .page table => encodeEach "charmap" "character maps to <undefined>" table.encode? 0 s

/-! ### Reading -/

/-- The result of reading bytes. -/
abbrev Decoded := Except CodecFault (List Char)

/-- Puts a character in front of what is read later. -/
def Decoded.cons (c : Char) : Decoded → Decoded
  | .ok s => .ok (c :: s)
  | .error fault => .error fault

/-- A continuation byte of UTF-8. -/
def isContinuation (b : UInt8) : Bool := 0x80 ≤ b && b < 0xC0

/-- The six bits of a continuation byte. -/
def lowBits (b : UInt8) : Nat := b.toNat % 64

/-- The second byte of a UTF-8 form is bounded so that no form is too long, no surrogate is formed
    and no code point is too large. -/
def secondIsValid (lead second : UInt8) : Bool :=
  isContinuation second &&
    !(lead = 0xE0 && second < 0xA0) && !(lead = 0xED && 0xA0 ≤ second) &&
    !(lead = 0xF0 && second < 0x90) && !(lead = 0xF4 && 0x90 ≤ second)

/-- Reads UTF-8; `pos` is the place of the first byte. -/
def decodeUtf8 (pos : Nat) : List UInt8 → Decoded
  | [] => .ok []
  | lead :: rest =>
    let fault (count : Nat) (reason : String) : Decoded :=
      .error (.undecodable "utf-8" lead pos count reason)
    if lead < 0x80 then .cons (Char.ofNat lead.toNat) (decodeUtf8 (pos + 1) rest)
    else if lead < 0xC2 || 0xF5 ≤ lead then fault 1 "invalid start byte"
    else match rest with
      | [] => fault 1 "unexpected end of data"
      | second :: rest =>
        if !secondIsValid lead second then fault 1 "invalid continuation byte"
        else if lead < 0xE0 then
          .cons (Char.ofNat ((lead.toNat - 0xC0) * 64 + lowBits second)) (decodeUtf8 (pos + 2) rest)
        else match rest with
          | [] => fault 2 "unexpected end of data"
          | third :: rest =>
            if !isContinuation third then fault 2 "invalid continuation byte"
            else if lead < 0xF0 then
              .cons (Char.ofNat ((lead.toNat - 0xE0) * 4096 + lowBits second * 64 + lowBits third))
                (decodeUtf8 (pos + 3) rest)
            else match rest with
              | [] => fault 3 "unexpected end of data"
              | fourth :: rest =>
                if !isContinuation fourth then fault 3 "invalid continuation byte"
                else
                  .cons (Char.ofNat ((lead.toNat - 0xF0) * 262144 + lowBits second * 4096 +
                    lowBits third * 64 + lowBits fourth)) (decodeUtf8 (pos + 4) rest)

/-- The name of a byte order in a codec's name. -/
def orderName (bigEndian : Bool) : String := if bigEndian then "be" else "le"

/-- Two bytes as a number. -/
def wordOf (bigEndian : Bool) (a b : UInt8) : Nat :=
  if bigEndian then a.toNat * 256 + b.toNat else b.toNat * 256 + a.toNat

/-- Reads UTF-16; `pos` is the place of the first byte. -/
def decodeUtf16 (bigEndian : Bool) (pos : Nat) : List UInt8 → Decoded
  | [] => .ok []
  | [a] => .error (.undecodable ("utf-16-" ++ orderName bigEndian) a pos 1 "truncated data")
  | a :: b :: rest =>
    let fault (count : Nat) (reason : String) : Decoded :=
      .error (.undecodable ("utf-16-" ++ orderName bigEndian) a pos count reason)
    let n := wordOf bigEndian a b
    if n < 0xD800 || 0xE000 ≤ n then .cons (Char.ofNat n) (decodeUtf16 bigEndian (pos + 2) rest)
    else if 0xDC00 ≤ n then fault 2 "illegal encoding"
    else match rest with
      | c :: d :: rest =>
        let m := wordOf bigEndian c d
        if 0xDC00 ≤ m && m < 0xE000 then
          .cons (Char.ofNat (0x10000 + (n - 0xD800) * 1024 + (m - 0xDC00)))
            (decodeUtf16 bigEndian (pos + 4) rest)
        else fault 2 "illegal UTF-16 surrogate"
      | rest => fault (2 + rest.length) "unexpected end of data"

/-- Reads UTF-32; `pos` is the place of the first byte. -/
def decodeUtf32 (bigEndian : Bool) (pos : Nat) : List UInt8 → Decoded
  | [] => .ok []
  | a :: b :: c :: d :: rest =>
    let fault (reason : String) : Decoded :=
      .error (.undecodable ("utf-32-" ++ orderName bigEndian) a pos 4 reason)
    let n := if bigEndian then wordOf true a b * 65536 + wordOf true c d
      else wordOf false c d * 65536 + wordOf false a b
    if 0x110000 ≤ n then fault "code point not in range(0x110000)"
    else if 0xD800 ≤ n && n < 0xE000 then
      fault "code point in surrogate code point range(0xd800, 0xe000)"
    else .cons (Char.ofNat n) (decodeUtf32 bigEndian (pos + 4) rest)
  | a :: rest =>
    .error (.undecodable ("utf-32-" ++ orderName bigEndian) a pos (rest.length + 1) "truncated data")

/-- Reads byte by byte. -/
def decodeEach (codec reason : String) (char? : UInt8 → Option Char) (pos : Nat) :
    List UInt8 → Decoded
  | [] => .ok []
  | b :: rest =>
    match char? b with
    | some c => .cons c (decodeEach codec reason char? (pos + 1) rest)
    | none => .error (.undecodable codec b pos 1 reason)

/-- The text of some bytes. -/
def Encoding.decode (encoding : Encoding) (bytes : List UInt8) : Decoded :=
  match encoding with
  | .utf8 => decodeUtf8 0 bytes
  | .utf8Marked =>
    match bytes with
    | 0xEF :: 0xBB :: 0xBF :: rest => decodeUtf8 0 rest
    | [0xEF, 0xBB] => .ok []
    | [0xEF] => .ok []
    | bytes => decodeUtf8 0 bytes
  | .latin1 => .ok (bytes.map (fun b => Char.ofNat b.toNat))
  | .ascii =>
    decodeEach "ascii" "ordinal not in range(128)"
      (fun b => if b < 0x80 then some (Char.ofNat b.toNat) else none) 0 bytes
  | .utf16Marked =>
    match bytes with
    | [] => .ok []
    | [_] => decodeUtf16 false 0 bytes
    | 0xFF :: 0xFE :: rest => decodeUtf16 false 2 rest
    | 0xFE :: 0xFF :: rest => decodeUtf16 true 2 rest
    | bytes =>
      match decodeUtf16 false 0 bytes with
      | .ok _ => .error (.unmarked "UTF-16")
      | .error fault => .error fault
  | .utf16 bigEndian => decodeUtf16 bigEndian 0 bytes
  | .utf32Marked =>
    match bytes with
    | [] => .ok []
    | 0xFF :: 0xFE :: 0 :: 0 :: rest => decodeUtf32 false 4 rest
    | 0 :: 0 :: 0xFE :: 0xFF :: rest => decodeUtf32 true 4 rest
    | bytes =>
      match decodeUtf32 false 0 bytes with
      | .ok _ => .error (.unmarked "UTF-32")
      | .error fault => .error fault
  | .utf32 bigEndian => decodeUtf32 bigEndian 0 bytes
  | .page table => decodeEach "charmap" "character maps to <undefined>" table.decode? 0 bytes

example : (decodeUtf8 0 ("aé€😀".toList.flatMap utf8Bytes)).toOption = some "aé€😀".toList := by
  decide +kernel

example : (Encoding.find? "Latin 1").toOption = some .latin1 := by decide +kernel

end LayeredFiles.Text
