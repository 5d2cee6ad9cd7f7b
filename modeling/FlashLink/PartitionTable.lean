/-
The partitions the second loader knows, in flash layout order, and the
look-up every session command makes before it touches the device.
-/
import FlashLink.Failure

namespace FlashLink.PartitionTable

/-- Partition names in flash layout order. -/
def names : List String :=
  ["prodnv", "miscdata", "l_fixnv1", "l_fixnv2", "l_runtimenv1", "l_runtimenv2",
   "l_modem", "l_ldsp", "l_gdsp", "l_warm", "pm_sys", "sml", "logo", "fbootlogo",
   "wcnfdl", "wcnmodem", "boot", "system", "cache", "recovery", "misc", "userdata",
   "ubootlogo", "security", "dt", "cboot", "syberfs", "data", "internalsd"]

/-- A name as given, if it is in the table. -/
def lookup (name : String) : Except ParamFailure String :=
  if name ∈ names then .ok name else .error (.unknownPartition name)

end FlashLink.PartitionTable
