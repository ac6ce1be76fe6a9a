/-
This file models `main` of `mylsl`, which lists the current directory.
-/

import LinuxSystemProgramming.Construction.Mylsl

namespace Mylsl
open CString

/-- These are the fields of `struct stat` that the listing uses. -/
structure Stat where
  stMode : UInt32
  stNlink : UInt64
  stUid : UInt32
  stGid : UInt32
  stSize : Int64
  stBlocks : Int64
  stMtime : Int64
  deriving DecidableEq

/-- These are the fields of `struct tm` that the listing uses, each in the range of `localtime`. -/
structure Tm where
  tmMon : Fin 12
  tmMday : Fin 32
  tmHour : Fin 24
  tmMin : Fin 60
  deriving DecidableEq

/-- The system knows names for some users and groups, and it has a time zone. -/
structure Host where
  getpwuid : UInt32 → Option (List UInt8)
  getgrgid : UInt32 → Option (List UInt8)
  localtime : Int64 → Tm

/-- `GetUid` converts its `int` back, and it dereferences NULL for an unknown user. -/
def Host.getUid (host : Host) (id : Int32) : Option (List UInt8) := host.getpwuid id.toUInt32

/-- `GetGid` does the same for a group. -/
def Host.getGid (host : Host) (id : Int32) : Option (List UInt8) := host.getgrgid id.toUInt32

/-- The types of regular files, directories, devices, FIFOs, links and sockets have their characters. -/
def letter (type : UInt32) : UInt8 :=
  if type = 0o100000 then '-'.toUInt8
  else if type = 0o040000 then 'd'.toUInt8
  else if type = 0o020000 then 'c'.toUInt8
  else if type = 0o060000 then 'b'.toUInt8
  else if type = 0o010000 then 'p'.toUInt8
  else if type = 0o120000 then 'l'.toUInt8
  else if type = 0o140000 then 's'.toUInt8
  else 'w'.toUInt8

/-- The first character tells the type of the file. -/
def kind (mode : UInt32) : UInt8 := letter (mode &&& 0o170000)

/-- A permission is shown by its letter or by a dash. -/
def flag (mode mask : UInt32) (letter : UInt8) : UInt8 :=
  if mode &&& mask ≠ 0 then letter else '-'.toUInt8

/-- The permission to execute also shows whether the identity is set. -/
def execute (mode mask set : UInt32) : UInt8 :=
  if mode &&& mask ≠ 0 then if mode &&& set ≠ 0 then 's'.toUInt8 else 'x'.toUInt8
  else if mode &&& set ≠ 0 then 'S'.toUInt8
  else '-'.toUInt8

/-- `permissions` has the type and the three permissions of the user, the group and the others. -/
def permissions (mode : UInt32) : Content 30 where
  bytes := [kind mode,
    flag mode 0o400 'r'.toUInt8, flag mode 0o200 'w'.toUInt8, execute mode 0o100 0o4000,
    flag mode 0o040 'r'.toUInt8, flag mode 0o020 'w'.toUInt8, execute mode 0o010 0o2000,
    flag mode 0o004 'r'.toUInt8, flag mode 0o002 'w'.toUInt8, flag mode 0o001 'x'.toUInt8]
  fits := show 10 < 30 by decide

/-- `month` of `main`. -/
def month : Fin 12 → List UInt8
  | 0 => [74, 97, 110]
  | 1 => [70, 101, 98]
  | 2 => [77, 97, 114]
  | 3 => [65, 112, 114]
  | 4 => [77, 97, 121]
  | 5 => [74, 117, 110]
  | 6 => [74, 117, 108]
  | 7 => [65, 117, 103]
  | 8 => [83, 101, 112]
  | 9 => [79, 99, 116]
  | 10 => [78, 111, 118]
  | 11 => [68, 101, 99]

/-- `%7d` puts blanks in front of a short numeral. -/
def padded (number : Int) : List UInt8 :=
  List.replicate (7 - (numeral number).length) 32 ++ numeral number

/-- `%02d` puts a zero in front of a single digit. -/
def twoDigits (number : Nat) : List UInt8 :=
  List.replicate (2 - (decimal number).length) 48 ++ decimal number

/-- The variable `nlnk` is an `int`. -/
def Stat.nlnk (stat : Stat) : Int := stat.stNlink.toUInt32.toInt32.toInt

/-- The variable `fsize` is an `int`. -/
def Stat.fsize (stat : Stat) : Int := stat.stSize.toInt32.toInt

/-- The time is printed behind the size. -/
def time (t : Tm) : List UInt8 :=
  month t.tmMon ++ 32 :: (decimal t.tmMday ++ 32 :: (twoDigits t.tmHour ++
    58 :: twoDigits t.tmMin))

/-- The second loop prints a line for each name, and it does not get to the end of a line with an unknown user or group. -/
def Host.line (host : Host) (name : List UInt8) (stat : Stat) : Option (List UInt8) :=
  (host.getUid stat.stUid.toInt32).bind fun userName =>
    (host.getGid stat.stGid.toInt32).map fun groupName =>
      (permissions stat.stMode).bytes ++ 32 :: 32 :: (numeral stat.nlnk ++ 32 :: (userName ++
        32 :: 32 :: (groupName ++ (padded stat.fsize ++ 32 :: (time (host.localtime stat.stMtime) ++
          32 :: (name ++ [10]))))))

/-- Both loops pass over these names. -/
def skipped (name : List UInt8) : Bool := name = [46] ∨ name = [46, 46]

/-- An entry of `readdir` has its name and the result of `lstat`. -/
abbrev Entry := List UInt8 × Option Stat

/-- The first loop adds the blocks, unless an `lstat` fails. -/
def blocks : Int64 → List Entry → Option Int64
  | total, [] => some total
  | total, (name, result) :: rest =>
      if skipped name then blocks total rest
      else result.bind fun stat => blocks (total + stat.stBlocks) rest

/-- The second loop prints the lines, unless an `lstat` fails. -/
def Host.lines (host : Host) : List Entry → Option (List UInt8)
  | [] => some []
  | (name, result) :: rest =>
      if skipped name then host.lines rest
      else
        result.bind fun stat =>
          (host.line name stat).bind fun printed =>
            (host.lines rest).map fun later => printed ++ later

/-- These bytes are `"total "`. -/
def totalText : List UInt8 := [116, 111, 116, 97, 108, 32]

/-- The output of `main`, which reads the directory twice and may find other entries at the second time. -/
def Host.main (host : Host) (first second : List Entry) : Option (List UInt8) :=
  (blocks 0 first).bind fun total =>
    (host.lines second).map fun printed => totalText ++ numeral total.toInt ++ 10 :: printed

end Mylsl
