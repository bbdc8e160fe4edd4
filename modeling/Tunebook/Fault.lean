/-!
# Causes of failure

Every computation that can fail names its cause by a `Fault`. Its wording is given once, by `Fault.message`;
its category is the word under which reports file it.
-/

namespace Tunebook

/-- The word under which a failure is filed. -/
inductive Category where
  | value
  | type
  | key
  | index
  | member
  | overflow
  | packing
  | decoding
  | encoding
  | absentFile
  | existingFile
  | notDirectory
  | isDirectory
  | system
  | runtime
  | recursion
  deriving DecidableEq, Repr, Inhabited

def Category.name : Category → String
  | value => "ValueError"
  | type => "TypeError"
  | key => "KeyError"
  | index => "IndexError"
  | member => "AttributeError"
  | overflow => "OverflowError"
  | packing => "error"
  | decoding => "UnicodeDecodeError"
  | encoding => "UnicodeEncodeError"
  | absentFile => "FileNotFoundError"
  | existingFile => "FileExistsError"
  | notDirectory => "NotADirectoryError"
  | isDirectory => "IsADirectoryError"
  | system => "OSError"
  | runtime => "RuntimeError"
  | recursion => "RecursionError"

def Category.qualifiedName : Category → String
  | packing => "struct.error"
  | c => c.name

/-- What a file system answers when it refuses an operation. -/
inductive Refusal where
  | absent
  | present
  | notDirectory
  | isDirectory
  | nameTooLong
  deriving DecidableEq, Repr, Inhabited

def Refusal.number : Refusal → Nat
  | absent => 2
  | present => 17
  | notDirectory => 20
  | isDirectory => 21
  | nameTooLong => 36

def Refusal.text : Refusal → String
  | absent => "No such file or directory"
  | present => "File exists"
  | notDirectory => "Not a directory"
  | isDirectory => "Is a directory"
  | nameTooLong => "File name too long"

def Refusal.category : Refusal → Category
  | absent => .absentFile
  | present => .existingFile
  | notDirectory => .notDirectory
  | isDirectory => .isDirectory
  | nameTooLong => .system

/-- The causes of failure. A `kind` is the name of a kind of value; a `shown` text is already quoted. -/
inductive Fault where
  /-- A number in text has more digits than can be read. -/
  | tooManyDigits (count : Nat)
  /-- An integer has more digits than can be written. -/
  | tooLongToWrite
  | notInteger (base : Nat) (shown : String)
  | notNumber (shown : String)
  | notPitch (shown : String)
  /-- A letter and a sharp that no degree of the scale bears. -/
  | noSuchDegree
  /-- An integer is beyond the largest double. -/
  | integerBeyondDouble
  /-- A quotient of integers is beyond the largest double. -/
  | quotientBeyondDouble
  | infiniteToInteger
  | nanToInteger
  | notMatchable (kind : String)
  | notReal (kind : String)
  | unhashable (kind : String)
  | noMember (kind member : String)
  | notIterable (kind : String)
  | notContainer (kind : String)
  | notSized (kind : String)
  | notOperable (sign left right : String)
  | notComparable (sign left right : String)
  /-- A place in a sequence is named by something else than an integer. -/
  | notPlace (holder kind : String)
  | notRounded (kind : String)
  | notRepeated (kind : String)
  /-- A sequence is to be repeated more often than any sequence is long. -/
  | repeatedTooOften
  | notJoined
  /-- A member of what is to be joined is no text. -/
  | memberNotText (place : Nat) (kind : String)
  | unknownKey (shown : String)
  | channelNotInteger
  | channelOutOfRange
  | dataByteNotInteger
  | dataByteOutOfRange
  | textNotString
  | unknownEvent (shown : String)
  | headerFieldNotInteger
  | headerFieldOutOfRange
  | headerFieldTooLong
  /-- A chunk of a file is longer than its length can say. -/
  | chunkTooLong
  | yearOutOfRange (year : Nat)
  | monthOutOfRange
  | dayOutOfRange
  | hourOutOfRange
  | minuteOutOfRange
  | secondOutOfRange
  | offsetOutOfRange (shown : String)
  | noCodePoint
  | codePointTooLong
  | emptyNumber
  | noTimestamp
  | keyNotWritable (kind : String)
  | notWritable (kind : String)
  /-- A value that holds itself cannot be written. -/
  | circular
  /-- A scalar stands for itself. -/
  | endless
  /-- Two mappings are merged inside themselves. -/
  | endlessMerge
  | notPath (kind : String)
  | undecodable (octets : List UInt8) (position : Nat) (reason : String)
  /-- Surrogates that follow one another in a text have no octets. -/
  | unencodable (codes : List Nat) (position : Nat)
  | refused (why : Refusal) (shown : String)
  | nulInPath
  | noHome
  deriving DecidableEq, Repr, Inhabited

namespace Fault

def category : Fault → Category
  | tooManyDigits _ | tooLongToWrite | notInteger _ _ | notNumber _ | notPitch _ | noSuchDegree
  | nanToInteger | channelOutOfRange | dataByteOutOfRange | yearOutOfRange _ | monthOutOfRange
  | dayOutOfRange | hourOutOfRange | minuteOutOfRange | secondOutOfRange | offsetOutOfRange _
  | noCodePoint | circular | nulInPath => .value
  | integerBeyondDouble | quotientBeyondDouble | infiniteToInteger | repeatedTooOften | codePointTooLong =>
    .overflow
  | notMatchable _ | notReal _ | unhashable _ | notIterable _ | notContainer _ | notSized _
  | notOperable _ _ _ | notComparable _ _ _ | notPlace _ _ | notRounded _ | notRepeated _ | notJoined
  | memberNotText _ _ | channelNotInteger | dataByteNotInteger | textNotString | unknownEvent _
  | keyNotWritable _ | notWritable _ | notPath _ => .type
  | noMember _ _ | noTimestamp => .member
  | unknownKey _ => .key
  | emptyNumber => .index
  | headerFieldNotInteger | headerFieldOutOfRange | headerFieldTooLong | chunkTooLong => .packing
  | undecodable _ _ _ => .decoding
  | unencodable _ _ => .encoding
  | refused why _ => why.category
  | noHome => .runtime
  | endless | endlessMerge => .recursion

def octetText (b : UInt8) : String :=
  String.ofList [Nat.digitChar (b.toNat / 16), Nat.digitChar (b.toNat % 16)]

def codeText (n : Nat) : String :=
  String.ofList ('\\' :: 'u' :: [n / 4096, n / 256 % 16, n / 16 % 16, n % 16].map Nat.digitChar)

def message : Fault → String
  | tooManyDigits count =>
    "Exceeds the limit (4300 digits) for integer string conversion: value has " ++ toString count
      ++ " digits; use sys.set_int_max_str_digits() to increase the limit"
  | tooLongToWrite =>
    "Exceeds the limit (4300 digits) for integer string conversion; use sys.set_int_max_str_digits()"
      ++ " to increase the limit"
  | notInteger base shown =>
    "invalid literal for int() with base " ++ toString base ++ ": " ++ shown
  | notNumber shown => "could not convert string to float: " ++ shown
  | notPitch shown => "Not a pitch name: " ++ shown
  | noSuchDegree => "tuple.index(x): x not in tuple"
  | integerBeyondDouble => "int too large to convert to float"
  | quotientBeyondDouble => "integer division result too large for a float"
  | infiniteToInteger => "cannot convert float infinity to integer"
  | nanToInteger => "cannot convert float NaN to integer"
  | notMatchable kind => "expected string or bytes-like object, got '" ++ kind ++ "'"
  | notReal kind => "float() argument must be a string or a real number, not '" ++ kind ++ "'"
  | unhashable kind => "unhashable type: '" ++ kind ++ "'"
  | noMember kind member => "'" ++ kind ++ "' object has no attribute '" ++ member ++ "'"
  | notIterable kind => "'" ++ kind ++ "' object is not iterable"
  | notContainer kind => "argument of type '" ++ kind ++ "' is not iterable"
  | notSized kind => "object of type '" ++ kind ++ "' has no len()"
  | notOperable sign left right =>
    "unsupported operand type(s) for " ++ sign ++ ": '" ++ left ++ "' and '" ++ right ++ "'"
  | notComparable sign left right =>
    "'" ++ sign ++ "' not supported between instances of '" ++ left ++ "' and '" ++ right ++ "'"
  | notPlace holder kind => holder ++ " indices must be integers or slices, not " ++ kind
  | notRounded kind => "type " ++ kind ++ " doesn't define __round__ method"
  | notRepeated kind => "can't multiply sequence by non-int of type '" ++ kind ++ "'"
  | repeatedTooOften => "cannot fit 'int' into an index-sized integer"
  | notJoined => "can only join an iterable"
  | memberNotText place kind =>
    "sequence item " ++ toString place ++ ": expected str instance, " ++ kind ++ " found"
  | unknownKey shown => shown
  | channelNotInteger => "channel must be int"
  | channelOutOfRange => "channel must be in range 0..15"
  | dataByteNotInteger => "data byte must be int"
  | dataByteOutOfRange => "data byte must be in range 0..127"
  | textNotString => "attribute must be a string"
  | unknownEvent shown => "Unknown MIDI event: " ++ shown
  | headerFieldNotInteger => "required argument is not an integer"
  | headerFieldOutOfRange => "'h' format requires -32768 <= number <= 32767"
  | headerFieldTooLong => "argument out of range"
  | chunkTooLong => "'L' format requires 0 <= number <= 4294967295"
  | yearOutOfRange year => "year " ++ toString year ++ " is out of range"
  | monthOutOfRange => "month must be in 1..12"
  | dayOutOfRange => "day is out of range for month"
  | hourOutOfRange => "hour must be in 0..23"
  | minuteOutOfRange => "minute must be in 0..59"
  | secondOutOfRange => "second must be in 0..59"
  | offsetOutOfRange shown =>
    "offset must be a timedelta strictly between -timedelta(hours=24) and timedelta(hours=24), not "
      ++ shown ++ "."
  | noCodePoint => "chr() arg not in range(0x110000)"
  | codePointTooLong => "Python int too large to convert to C int"
  | emptyNumber => "string index out of range"
  | noTimestamp => "'NoneType' object has no attribute 'groupdict'"
  | keyNotWritable kind => "keys must be str, int, float, bool or None, not " ++ kind
  | notWritable kind => "Object of type " ++ kind ++ " is not JSON serializable"
  | circular => "Circular reference detected"
  | endless => "maximum recursion depth exceeded"
  | endlessMerge => "maximum recursion depth exceeded while calling a Python object"
  | notPath kind => "expected str, bytes or os.PathLike object, not " ++ kind
  | undecodable octets position reason =>
    let place := match octets with
      | [b] => "byte 0x" ++ octetText b ++ " in position " ++ toString position
      | _ => "bytes in position " ++ toString position ++ "-" ++ toString (position + octets.length - 1)
    "'utf-8' codec can't decode " ++ place ++ ": " ++ reason
  | unencodable codes position =>
    let place := match codes with
      | [n] => "character '" ++ codeText n ++ "' in position " ++ toString position
      | _ => "characters in position " ++ toString position ++ "-" ++ toString (position + codes.length - 1)
    "'utf-8' codec can't encode " ++ place ++ ": surrogates not allowed"
  | refused why shown => "[Errno " ++ toString why.number ++ "] " ++ why.text ++ ": " ++ shown
  | nulInPath => "embedded null byte"
  | noHome => "Could not determine home directory."

end Fault

end Tunebook
