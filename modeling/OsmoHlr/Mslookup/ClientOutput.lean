import OsmoHlr.Lib.Json
import OsmoHlr.LibosmocoreHost
import OsmoHlr.Mslookup.Basic

/-!
# What osmo-mslookup-client prints

`formatter_csv` and `formatter_json` of `src/mslookup/osmo-mslookup-client.c`, and how their
output is read back.

* `csvText`, `jsonText` — what is printed; `formatterCsv`, `formatterJson` — what the buffer has
  of it.
* `readCsv`, `readAnswer` — the columns of a row by their headers, the members of an object by
  their names.
* `readCsv_iff` — a row is read back if the query has no tab and the result is an address: any
  other result has a ninth column.
* `readAnswer_iff` — an object is read back if the query stands for itself between quotes.
* `parsesBack_iff` — both together.
-/

namespace OsmoHlr
namespace Mslookup

open CString Decimal

/-! ## The formatters -/

/-- What an IP address is written with. -/
def isIpChar (c : UInt8) : Bool :=
  isDigit c || (65 ≤ c && c ≤ 70) || (97 ≤ c && c ≤ 102) || c == 46 || c == 58

/-- What the formatters use of libosmocore. -/
structure ClientLib extends Libosmocore where
  /-- `osmo_sockaddr_str_is_nonzero` -/
  sockaddrStrIsNonzero : SockaddrStr → Bool
  /-- The text of an address that is not zero can be read as one. -/
  nonzero_ip : ∀ a, sockaddrStrIsNonzero a = true →
    a.ip.bytes ≠ [] ∧ ∀ c ∈ a.ip.bytes, isIpChar c = true

variable (lib : ClientLib)

/-- The numbers of `enum osmo_mslookup_result_code`. -/
def ResultCode.num : ResultCode → Nat
  | .none => 0
  | .result => 1
  | .notFound => 2

/-- `osmo_mslookup_result_code_names` -/
def resultCodeNames : List (Nat × CStr) :=
  [(0, CStr.lit "none"), (1, CStr.lit "result"), (2, CStr.lit "not-found")]

/-- `osmo_mslookup_result_code_name` -/
def resultCodeName (rc : ResultCode) : CStr := lib.getValueString resultCodeNames rc.num

/-- `%u` -/
def printU (n : Nat) : CStr := CStr.ofBytes (printDec n)

/-- `CSV_HEADERS` -/
def csvHeaders : CStr := CStr.lit "query\tresult\tlast\tage\tv4_ip\tv4_port\tv6_ip\tv6_port"

/-- The two columns of an address. -/
def csvAddr (addr : SockaddrStr) : CStr :=
  if lib.sockaddrStrIsNonzero addr then
    CStr.lit "\t" ++ addr.ip ++ (CStr.lit "\t" ++ printU addr.port.toNat)
  else CStr.lit "\t\t"

/-- The columns behind the query; `none` is a null pointer, for an error. -/
def csvRest : Option Result → CStr
  | none => CStr.lit "\tERROR\t\t\t\t\t\t"
  | some r =>
      CStr.lit "\t" ++ resultCodeName lib r.rc ++
      (CStr.lit "\t" ++ if r.last then CStr.lit "last" else CStr.lit "not-last") ++
      (CStr.lit "\t" ++ printU r.age.toNat) ++
      match r.rc with
      | .result => csvAddr lib r.hostV4 ++ csvAddr lib r.hostV6
      | _ => CStr.lit "\t\t\t\t\t"

/-- What `formatter_csv` prints. -/
def csvText (queryStr : CStr) (r : Option Result) : CStr := queryStr ++ csvRest lib r

/-- `formatter_csv`: the string in `buf`. -/
def formatterCsv (buflen : Nat) (queryStr : CStr) (r : Option Result) : CStr :=
  (csvText lib queryStr r).take (buflen - 1)

/-- The member of an address. -/
def jsonAddr (name : CStr) (addr : SockaddrStr) : CStr :=
  if lib.sockaddrStrIsNonzero addr then
    CStr.lit ", \"" ++ name ++ CStr.lit "\": [\"" ++ addr.ip ++
      (CStr.lit "\", \"" ++ printU addr.port.toNat) ++ CStr.lit "\"]"
  else CStr.empty

/-- The members behind the query. -/
def jsonRest : Option Result → CStr
  | none => CStr.lit ", \"result\": \"ERROR\""
  | some r =>
      CStr.lit ", \"result\": \"" ++ resultCodeName lib r.rc ++ CStr.lit "\"" ++
      (CStr.lit ", \"last\": " ++ if r.last then CStr.lit "true" else CStr.lit "false") ++
      (CStr.lit ", \"age\": " ++ printU r.age.toNat) ++
      if r.rc = .result then
        jsonAddr lib (CStr.lit "v4") r.hostV4 ++ jsonAddr lib (CStr.lit "v6") r.hostV6
      else CStr.empty

/-- What `formatter_json` prints. -/
def jsonText (queryStr : CStr) (r : Option Result) : CStr :=
  CStr.lit "\x7b\"query\": \"" ++ queryStr ++ CStr.lit "\"" ++ jsonRest lib r ++ CStr.lit "\x7d"

/-- `formatter_json`: the string in `buf`. -/
def formatterJson (buflen : Nat) (queryStr : CStr) (r : Option Result) : CStr :=
  (jsonText lib queryStr r).take (buflen - 1)

/-! ## What is read back -/

/-- What the output tells of a result: addresses if there was one to be found. -/
structure Told where
  rc : ResultCode
  last : Bool
  age : Nat
  v4 : Option (List UInt8 × Nat)
  v6 : Option (List UInt8 × Nat)
  deriving DecidableEq

/-- An address that is not zero. -/
def toldAddr (addr : SockaddrStr) : Option (List UInt8 × Nat) :=
  if lib.sockaddrStrIsNonzero addr then some (addr.ip.bytes, addr.port.toNat) else none

/-- What is to be told of a result. -/
def told (r : Result) : Told where
  rc := r.rc
  last := r.last
  age := r.age.toNat
  v4 := if r.rc = .result then toldAddr lib r.hostV4 else none
  v6 := if r.rc = .result then toldAddr lib r.hostV6 else none

/-- The words for the result codes. -/
def ResultCode.word : ResultCode → String
  | .none => "none"
  | .result => "result"
  | .notFound => "not-found"

/-- The result code of a word. -/
def readCode (word : List UInt8) : Option ResultCode :=
  [ResultCode.none, .result, .notFound].find? fun rc => word == (CStr.lit rc.word).bytes

/-- A number in decimal digits. -/
def readNumber (ds : List UInt8) : Option Nat :=
  if !ds.isEmpty && ds.all isDigit then some (digitsValue ds) else none

/-! ### CSV -/

/-- `'\t'` -/
def tab : UInt8 := 9

/-- The columns of a row under their headers, if there are as many. -/
def csvColumns (row : List UInt8) : Option (List (List UInt8 × List UInt8)) :=
  let headers := csvHeaders.bytes.splitOn tab
  let columns := row.splitOn tab
  if columns.length = headers.length then some (headers.zip columns) else none

/-- `last` or `not-last` -/
def readCsvLast (word : List UInt8) : Option Bool :=
  if word = (CStr.lit "last").bytes then some true
  else if word = (CStr.lit "not-last").bytes then some false
  else none

/-- The two columns of an address, which are empty if there is none. -/
def readCsvAddr (ip port : List UInt8) : Option (Option (List UInt8 × Nat)) :=
  if ip.isEmpty && port.isEmpty then some none
  else (readNumber port).map fun port => some (ip, port)

/-- A row, by the headers of its columns. -/
def readCsv (row : List UInt8) : Option (List UInt8 × Option Told) := do
  let columns ← csvColumns row
  let column (header : String) := columns.lookup (CStr.lit header).bytes
  let query ← column "query"
  let result ← column "result"
  if result = (CStr.lit "ERROR").bytes then
    if (columns.drop 2).all (·.2.isEmpty) then some (query, none) else none
  else
    let rc ← readCode result
    let last ← readCsvLast (← column "last")
    let age ← readNumber (← column "age")
    let v4 ← readCsvAddr (← column "v4_ip") (← column "v4_port")
    let v6 ← readCsvAddr (← column "v6_ip") (← column "v6_port")
    some (query, some ⟨rc, last, age, v4, v6⟩)

/-! ### JSON -/

/-- The member of a name; the first one counts. -/
def member (name : String) (members : List (List Char × Json.Value)) : Option Json.Value :=
  (members.find? fun m => m.1 == name.toList).map (·.2)

/-- A string -/
def readStr : Json.Value → Option (List UInt8)
  | .str s => some (Json.utf8 s)
  | _ => none

/-- `true` or `false` -/
def readBool : Json.Value → Option Bool
  | .bool b => some b
  | _ => none

/-- A number without sign, fraction and exponent. -/
def readAge : Json.Value → Option Nat
  | .num text => readNumber (Json.utf8 text)
  | _ => none

/-- An address, as the list of its text and its port. -/
def readJsonAddr : Option Json.Value → Option (Option (List UInt8 × Nat))
  | none => some none
  | some (.arr [.str ip, .str port]) =>
      (readNumber (Json.utf8 port)).map fun port => some (Json.utf8 ip, port)
  | _ => none

/-- An object, by the names of its members. -/
def readAnswer : Json.Value → Option (List UInt8 × Option Told)
  | .obj members => do
      let query ← readStr (← member "query" members)
      let result ← readStr (← member "result" members)
      if result = (CStr.lit "ERROR").bytes then some (query, none)
      else
        let rc ← readCode result
        let last ← readBool (← member "last" members)
        let age ← readAge (← member "age" members)
        let v4 ← readJsonAddr (member "v4" members)
        let v6 ← readJsonAddr (member "v6" members)
        some (query, some ⟨rc, last, age, v4, v6⟩)
  | _ => none

/-- **Both texts can be parsed back**: the row has its columns and the object is one, and they say
what they are to tell. -/
def ParsesBack (csv json queryStr : CStr) (answer : Option Told) : Prop :=
  readCsv csv.bytes = some (queryStr.bytes, answer) ∧
    ∃ v, Json.IsText json.bytes v ∧ readAnswer v = some (queryStr.bytes, answer)

/-! ## Pieces of the output -/

theorem bytes_resultCodeName (rc : ResultCode) :
    (resultCodeName lib rc).bytes = (CStr.lit rc.word).bytes := by
  have hname : resultCodeName lib rc = CStr.lit rc.word := by
    refine lib.value_string _ _ _ ?_
    cases rc <;> rfl
  rw [hname]

@[simp] theorem bytes_printU (n : Nat) : (printU n).bytes = printDec n :=
  CStr.ofBytes_bytes_of_noNul fun h => ne_of_mem_printDec h (by decide) rfl

theorem readCode_word (rc : ResultCode) : readCode (CStr.lit rc.word).bytes = some rc := by
  cases rc <;> decide

theorem readNumber_printDec (n : Nat) : readNumber (printDec n) = some n := by
  have hall : (printDec n).all isDigit = true :=
    List.all_eq_true.2 isDigit_of_mem_printDec
  have hne : (printDec n).isEmpty = false := by
    rw [List.isEmpty_eq_false_iff]
    exact printDec_ne_nil n
  rw [readNumber, hall, hne, digitsValue_printDec]
  rfl

/-! ## CSV -/

theorem csvHeaders_splitOn : csvHeaders.bytes.splitOn tab =
    ["query", "result", "last", "age", "v4_ip", "v4_port", "v6_ip", "v6_port"].map
      fun header => (CStr.lit header).bytes := by
  decide

/-- A row of eight columns. -/
theorem readCsv_of_splitOn {row query result last age v4Ip v4Port v6Ip v6Port : List UInt8}
    (h : row.splitOn tab = [query, result, last, age, v4Ip, v4Port, v6Ip, v6Port]) :
    readCsv row =
      if result = (CStr.lit "ERROR").bytes then
        if [last, age, v4Ip, v4Port, v6Ip, v6Port].all (·.isEmpty) then some (query, none) else none
      else (do
        let rc ← readCode result
        let last ← readCsvLast last
        let age ← readNumber age
        let v4 ← readCsvAddr v4Ip v4Port
        let v6 ← readCsvAddr v6Ip v6Port
        some (query, some ⟨rc, last, age, v4, v6⟩)) := by
  rw [readCsv, csvColumns, csvHeaders_splitOn, h]
  rfl

/-- What is read has eight columns. -/
theorem count_tab_of_readCsv {row : List UInt8} {answer : List UInt8 × Option Told}
    (h : readCsv row = some answer) : row.count tab = 7 := by
  obtain ⟨columns, hcolumns, -⟩ := Option.bind_eq_some_iff.1 h
  have hlen : (row.splitOn tab).length = (csvHeaders.bytes.splitOn tab).length := by
    by_contra hne
    rw [csvColumns, if_neg hne] at hcolumns
    cases hcolumns
  rw [length_splitOn, csvHeaders_splitOn] at hlen
  exact Nat.succ_inj.1 hlen

/-- The columns of an address. -/
def addrColumns (addr : SockaddrStr) : List UInt8 × List UInt8 :=
  if lib.sockaddrStrIsNonzero addr then (addr.ip.bytes, printDec addr.port.toNat) else ([], [])

/-- The word for the last flag. -/
def lastWord (last : Bool) : CStr := if last then CStr.lit "last" else CStr.lit "not-last"

/-- The columns behind the query. -/
def restColumns : Option Result → List (List UInt8)
  | none => (CStr.lit "ERROR").bytes :: List.replicate 6 []
  | some r =>
      [(CStr.lit r.rc.word).bytes, (lastWord r.last).bytes, printDec r.age.toNat] ++
        if r.rc = .result then
          [(addrColumns lib r.hostV4).1, (addrColumns lib r.hostV4).2,
            (addrColumns lib r.hostV6).1, (addrColumns lib r.hostV6).2]
        else List.replicate 5 []

theorem bytes_csvAddr (addr : SockaddrStr) :
    (csvAddr lib addr).bytes =
      tab :: ((addrColumns lib addr).1 ++ tab :: (addrColumns lib addr).2) := by
  have htab : (CStr.lit "\t").bytes = [tab] := by decide
  unfold csvAddr addrColumns
  split
  · simp [htab]
  · decide

theorem bytes_csvRest (r : Option Result) :
    (csvRest lib r).bytes = (restColumns lib r).flatMap (tab :: ·) := by
  have htab : (CStr.lit "\t").bytes = [tab] := by decide
  have htabs : (CStr.lit "\t\t\t\t\t").bytes = List.replicate 5 tab := by decide
  cases r with
  | none =>
      show (CStr.lit "\tERROR\t\t\t\t\t\t").bytes =
        ((CStr.lit "ERROR").bytes :: List.replicate 6 []).flatMap (tab :: ·)
      decide
  | some r =>
      simp only [csvRest, restColumns, CStr.bytes_append, htab, bytes_resultCodeName, bytes_printU,
        lastWord]
      cases r.rc <;> simp [htabs, bytes_csvAddr]

theorem tab_not_mem_restColumns (r : Option Result) :
    ∀ column ∈ restColumns lib r, tab ∉ column := by
  have hdec : ∀ n, tab ∉ printDec n := fun n h => ne_of_mem_printDec h (by decide) rfl
  have haddr : ∀ addr, tab ∉ (addrColumns lib addr).1 ∧ tab ∉ (addrColumns lib addr).2 := by
    intro addr
    unfold addrColumns
    split
    next h =>
        exact ⟨fun hmem => absurd ((lib.nonzero_ip addr h).2 tab hmem) (by decide), hdec _⟩
    next => exact ⟨List.not_mem_nil, List.not_mem_nil⟩
  cases r with
  | none =>
      show ∀ column ∈ (CStr.lit "ERROR").bytes :: List.replicate 6 [], tab ∉ column
      decide
  | some r =>
      have hword : tab ∉ (CStr.lit r.rc.word).bytes := by cases r.rc <;> decide
      have hlast : tab ∉ (lastWord r.last).bytes := by cases r.last <;> decide
      rw [restColumns]
      split_ifs <;> simp [hword, hlast, hdec, haddr]

theorem readCsvAddr_addrColumns (addr : SockaddrStr) :
    readCsvAddr (addrColumns lib addr).1 (addrColumns lib addr).2 = some (toldAddr lib addr) := by
  unfold addrColumns toldAddr
  split
  next h =>
      have hip : addr.ip.bytes.isEmpty = false :=
        List.isEmpty_eq_false_iff.2 (lib.nonzero_ip addr h).1
      rw [readCsvAddr, hip, readNumber_printDec]
      rfl
  next => rfl

theorem bytes_csvText (queryStr : CStr) (r : Option Result) :
    (csvText lib queryStr r).bytes = [tab].intercalate (queryStr.bytes :: restColumns lib r) := by
  rw [csvText, CStr.bytes_append, bytes_csvRest, append_flatMap_cons]

/-- Seven columns behind the query, or eight. -/
theorem length_restColumns (r : Option Result) :
    (restColumns lib r).length = if ∀ res, r = some res → res.rc = .result then 7 else 8 := by
  cases r with
  | none => simp [restColumns]
  | some r =>
      rw [restColumns]
      split_ifs <;> simp_all

/-- **A row is read back if the query has no tab, and no result is told but addresses.** -/
theorem readCsv_iff (queryStr : CStr) (r : Option Result) :
    readCsv (csvText lib queryStr r).bytes = some (queryStr.bytes, r.map (told lib)) ↔
      tab ∉ queryStr.bytes ∧ ∀ res, r = some res → res.rc = .result := by
  have hrest := tab_not_mem_restColumns lib r
  constructor
  · intro h
    have hcount := count_tab_of_readCsv h
    rw [csvText, CStr.bytes_append, bytes_csvRest, List.count_append, count_flatMap_cons hrest,
      length_restColumns] at hcount
    rw [← List.count_eq_zero]
    split at hcount
    next hrc => exact ⟨by omega, hrc⟩
    next => omega
  · rintro ⟨hquery, hrc⟩
    have hsplit : (csvText lib queryStr r).bytes.splitOn tab =
        queryStr.bytes :: restColumns lib r := by
      rw [bytes_csvText, List.splitOn_intercalate tab _ (List.cons_ne_nil _ _)]
      exact List.forall_mem_cons.2 ⟨hquery, hrest⟩
    cases r with
    | none => 
        rw [readCsv_of_splitOn hsplit]
        rfl
    | some r =>
        have hresult := hrc r rfl
        simp only [restColumns, hresult, if_true] at hsplit
        have hlast : readCsvLast (lastWord r.last).bytes = some r.last := by cases r.last <;> decide
        rw [readCsv_of_splitOn hsplit, if_neg (by decide), readCode_word, hlast,
          readNumber_printDec, readCsvAddr_addrColumns, readCsvAddr_addrColumns]
        simp [told, hresult]
/-! ## JSON -/

open Json (Value Token Says SaysMember Lexes utf8 ascii isPlain isWord lex)

/-- Text between quotes. -/
def quoted (s : List Char) : List Char := '"' :: (s ++ ['"'])

/-- A number in decimal digits. -/
def decChars (n : Nat) : List Char := (printDec n).map ascii

/-- The text of an address. -/
def ipChars (addr : SockaddrStr) : List Char := addr.ip.bytes.map ascii

/-- The member of an address, with the text of its value. -/
def addrMember (name : String) (addr : SockaddrStr) : List (List Char × List Char) :=
  if lib.sockaddrStrIsNonzero addr then
    [(name.toList, '[' ::
      (quoted (ipChars addr) ++ Json.moreItemsText [quoted (decChars addr.port.toNat)]))]
  else []

/-- The members behind the query, with the texts of their values. -/
def restMembers : Option Result → List (List Char × List Char)
  | none => [("result".toList, quoted "ERROR".toList)]
  | some r =>
      ("result".toList, quoted r.rc.word.toList) ::
        ("last".toList, if r.last then "true".toList else "false".toList) ::
          ("age".toList, decChars r.age.toNat) ::
            if r.rc = .result then addrMember lib "v4" r.hostV4 ++ addrMember lib "v6" r.hostV6
            else []

theorem utf8_decChars (n : Nat) : utf8 (decChars n) = printDec n :=
  Json.utf8_map_ascii fun b hb => toNat_lt_of_isDigit (isDigit_of_mem_printDec b hb)

theorem toNat_lt_of_isIpChar {c : UInt8} (h : isIpChar c = true) : c.toNat < 128 := by
  simp only [isIpChar, isDigit, Bool.or_eq_true, Bool.and_eq_true, decide_eq_true_eq,
    UInt8.le_iff_toNat_le, beq_iff_eq] at h
  have h57 : (57 : UInt8).toNat = 57 := rfl
  have h70 : (70 : UInt8).toNat = 70 := rfl
  have h102 : (102 : UInt8).toNat = 102 := rfl
  rcases h with (((h | h) | h) | rfl) | rfl
  · omega
  · omega
  · omega
  · decide
  · decide

theorem utf8_ipChars {addr : SockaddrStr} (h : lib.sockaddrStrIsNonzero addr = true) :
    utf8 (ipChars addr) = addr.ip.bytes :=
  Json.utf8_map_ascii fun b hb => toNat_lt_of_isIpChar ((lib.nonzero_ip addr h).2 b hb)

theorem bytes_word (rc : ResultCode) : (CStr.lit rc.word).bytes = utf8 rc.word.toList := by
  cases rc <;> decide

theorem bytes_jsonAddr (name : String) (hname : (CStr.lit name).bytes = utf8 name.toList)
    (addr : SockaddrStr) (more : List (List Char × List Char)) :
    (jsonAddr lib (CStr.lit name) addr).bytes ++ utf8 (Json.moreMembersText more) =
      utf8 (Json.moreMembersText (addrMember lib name addr ++ more)) := by
  have h1 : (CStr.lit ", \"").bytes = utf8 ", \"".toList := by decide
  have h2 : (CStr.lit "\": [\"").bytes = utf8 "\": [\"".toList := by decide
  have h3 : (CStr.lit "\", \"").bytes = utf8 "\", \"".toList := by decide
  have h4 : (CStr.lit "\"]").bytes = utf8 "\"]".toList := by decide
  unfold jsonAddr addrMember
  split
  next h =>
      simp only [CStr.bytes_append, bytes_printU, h1, h2, h3, h4, hname, ← utf8_ipChars lib h,
        ← utf8_decChars, ← Json.utf8_append]
      refine congrArg utf8 ?_
      simp [Json.moreMembersText, Json.memberText, Json.moreItemsText, quoted]
  next => rfl

theorem bytes_jsonRest (r : Option Result) :
    (jsonRest lib r).bytes ++ (CStr.lit "\x7d").bytes =
      utf8 (Json.moreMembersText (restMembers lib r)) := by
  cases r with
  | none =>
      show (CStr.lit ", \"result\": \"ERROR\"").bytes ++ (CStr.lit "\x7d").bytes =
        utf8 (Json.moreMembersText [("result".toList, quoted "ERROR".toList)])
      decide
  | some r =>
      have h1 : (CStr.lit ", \"result\": \"").bytes = utf8 ", \"result\": \"".toList := by decide
      have h2 : (CStr.lit "\"").bytes = utf8 "\"".toList := by decide
      have h3 : (CStr.lit ", \"last\": ").bytes = utf8 ", \"last\": ".toList := by decide
      have h4 : (CStr.lit ", \"age\": ").bytes = utf8 ", \"age\": ".toList := by decide
      have hend : (CStr.lit "\x7d").bytes = utf8 (Json.moreMembersText []) := by decide
      have hlast : (if r.last then CStr.lit "true" else CStr.lit "false").bytes =
          utf8 (if r.last then "true".toList else "false".toList) := by cases r.last <;> decide
      have haddrs : (if r.rc = .result then
            jsonAddr lib (CStr.lit "v4") r.hostV4 ++ jsonAddr lib (CStr.lit "v6") r.hostV6
          else CStr.empty).bytes ++ (CStr.lit "\x7d").bytes =
          utf8 (Json.moreMembersText (if r.rc = .result then
            addrMember lib "v4" r.hostV4 ++ addrMember lib "v6" r.hostV6 else [])) := by
        rw [hend]
        split_ifs
        · rw [CStr.bytes_append, List.append_assoc,
            ← List.append_nil (addrMember lib "v6" r.hostV6), bytes_jsonAddr lib "v6" (by decide),
            bytes_jsonAddr lib "v4" (by decide)]
        · rfl
      simp only [jsonRest, CStr.bytes_append, List.append_assoc, bytes_resultCodeName, bytes_printU]
      rw [haddrs]
      simp only [h1, h2, h3, h4, hlast, bytes_word, ← utf8_decChars, ← Json.utf8_append]
      refine congrArg utf8 ?_
      simp [restMembers, Json.moreMembersText, Json.memberText, quoted]

/-- The member of an address. -/
def addrValue (name : String) (addr : SockaddrStr) : List (List Char × Value) :=
  if lib.sockaddrStrIsNonzero addr then
    [(name.toList, .arr [.str (ipChars addr), .str (decChars addr.port.toNat)])]
  else []

/-- The members behind the query. -/
def restValues : Option Result → List (List Char × Value)
  | none => [("result".toList, .str "ERROR".toList)]
  | some r =>
      ("result".toList, .str r.rc.word.toList) :: ("last".toList, .bool r.last) ::
        ("age".toList, .num (decChars r.age.toNat)) ::
          if r.rc = .result then addrValue lib "v4" r.hostV4 ++ addrValue lib "v6" r.hostV6 else []

theorem plain_of_isIpChar {c : UInt8} (h : isIpChar c = true) : isPlain (ascii c) = true := by
  have hall : ∀ n < 128, isIpChar (UInt8.ofNat n) = true → isPlain (Char.ofNat n) = true := by
    decide
  exact hall c.toNat (toNat_lt_of_isIpChar h) (by rwa [UInt8.ofNat_toNat])

theorem ascii_of_isDigit {c : UInt8} (h : isDigit c = true) :
    isPlain (ascii c) = true ∧ isWord (ascii c) = true ∧ (ascii c).isDigit = true := by
  have hall : ∀ n < 128, isDigit (UInt8.ofNat n) = true →
      isPlain (Char.ofNat n) = true ∧ isWord (Char.ofNat n) = true ∧
        (Char.ofNat n).isDigit = true := by
    decide
  exact hall c.toNat (toNat_lt_of_isDigit h) (by rwa [UInt8.ofNat_toNat])

theorem mem_decChars {n : Nat} {c : Char} (h : c ∈ decChars n) :
    isPlain c = true ∧ isWord c = true ∧ c.isDigit = true := by
  obtain ⟨b, hb, rfl⟩ := List.mem_map.1 h
  exact ascii_of_isDigit (isDigit_of_mem_printDec b hb)

theorem isNumber_decChars (n : Nat) : Json.isNumber (decChars n) = true := by
  cases h : printDec n with
  | nil => exact absurd h (printDec_ne_nil n)
  | cons c cs =>
      have hdigits : ∀ d ∈ decChars n, d.isDigit = true := fun d hd => (mem_decChars hd).2.2
      have hc := isDigit_of_mem_printDec c (by rw [h]; exact List.mem_cons_self ..)
      rw [decChars, h, List.map_cons] at hdigits ⊢
      refine Json.isNumber_of_digits hdigits fun h0 => ?_
      have hnat := congrArg Char.toNat h0
      rw [Json.toNat_ascii (toNat_lt_of_isDigit hc)] at hnat
      rw [printDec_cons h (UInt8.toNat_inj.1 hnat), List.map_nil]

theorem says_quoted {s : List Char} (h : ∀ c ∈ s, isPlain c = true) : Says (quoted s) (.str s) :=
  Says.str h

theorem plain_of_mem_ipChars {addr : SockaddrStr} (h : lib.sockaddrStrIsNonzero addr = true) :
    ∀ c ∈ ipChars addr, isPlain c = true := by
  intro c hc
  obtain ⟨b, hb, rfl⟩ := List.mem_map.1 hc
  exact plain_of_isIpChar ((lib.nonzero_ip addr h).2 b hb)

/-- What is written in the source is looked at character by character. -/
theorem isPlain_lit {text : String} (h : text.toList.all isPlain = true) :
    ∀ c ∈ text.toList, isPlain c = true := List.all_eq_true.1 h

theorem says_addrMember {name : String} (hname : ∀ c ∈ name.toList, isPlain c = true)
    (addr : SockaddrStr) :
    List.Forall₂ SaysMember (addrMember lib name addr) (addrValue lib name addr) := by
  unfold addrMember addrValue
  split
  next h =>
      have hip := plain_of_mem_ipChars lib h
      have hport : Says (quoted (decChars addr.port.toNat)) (.str (decChars addr.port.toNat)) :=
        says_quoted fun _ hc => (mem_decChars hc).1
      exact .cons ⟨rfl, hname, Says.arr (says_quoted hip) (.cons hport .nil)⟩ .nil
  next => exact .nil

theorem says_restMembers (r : Option Result) :
    List.Forall₂ SaysMember (restMembers lib r) (restValues lib r) := by
  cases r with
  | none => exact .cons ⟨rfl, isPlain_lit (by decide), says_quoted (isPlain_lit (by decide))⟩ .nil
  | some r =>
      have hword : r.rc.word.toList.all isPlain = true := by cases r.rc <;> decide
      have hage : Says (decChars r.age.toNat) (.num (decChars r.age.toNat)) :=
        Says.num (isNumber_decChars _) fun c hc => (mem_decChars hc).2.1
      refine .cons ⟨rfl, isPlain_lit (by decide), says_quoted (isPlain_lit hword)⟩
        (.cons ⟨rfl, isPlain_lit (by decide), Says.bool _⟩
          (.cons ⟨rfl, isPlain_lit (by decide), hage⟩ ?_))
      split_ifs
      · exact List.rel_append (says_addrMember lib (isPlain_lit (by decide)) _)
          (says_addrMember lib (isPlain_lit (by decide)) _)
      · exact .nil

theorem readJsonAddr_addrValue (name : String) (addr : SockaddrStr) :
    readJsonAddr (member name (addrValue lib name addr)) = some (toldAddr lib addr) := by
  unfold addrValue toldAddr
  split
  next h => simp [member, readJsonAddr, utf8_decChars, utf8_ipChars lib h, readNumber_printDec]
  next => rfl

/-- The members of the addresses are found behind the others. -/
theorem member_addrs (v4 v6 : SockaddrStr) :
    member "v4" (addrValue lib "v4" v4 ++ addrValue lib "v6" v6) =
        member "v4" (addrValue lib "v4" v4) ∧
      member "v6" (addrValue lib "v4" v4 ++ addrValue lib "v6" v6) =
        member "v6" (addrValue lib "v6" v6) := by
  unfold addrValue
  split_ifs <;> exact ⟨rfl, rfl⟩

theorem readAnswer_restValues (s : List Char) (r : Option Result) :
    readAnswer (.obj (("query".toList, .str s) :: restValues lib r)) =
      some (utf8 s, r.map (told lib)) := by
  cases r with
  | none => rfl
  | some r =>
      have herror : utf8 r.rc.word.toList ≠ (CStr.lit "ERROR").bytes := by cases r.rc <;> decide
      have haddrs : ∀ {members : List (List Char × Value)} {v4 v6 : Option (List UInt8 × Nat)},
          readJsonAddr (member "v4" members) = some v4 →
          readJsonAddr (member "v6" members) = some v6 →
          readAnswer (.obj (("query".toList, .str s) :: ("result".toList, .str r.rc.word.toList) ::
            ("last".toList, .bool r.last) :: ("age".toList, .num (decChars r.age.toNat)) ::
              members)) = some (utf8 s, some ⟨r.rc, r.last, r.age.toNat, v4, v6⟩) := by
        intro members v4 v6 hv4 hv6
        show (if utf8 r.rc.word.toList = (CStr.lit "ERROR").bytes then some (utf8 s, none)
          else do
            let rc ← readCode (utf8 r.rc.word.toList)
            let age ← readNumber (utf8 (decChars r.age.toNat))
            let v4 ← readJsonAddr (member "v4" members)
            let v6 ← readJsonAddr (member "v6" members)
            some (utf8 s, some ⟨rc, r.last, age, v4, v6⟩) : Option (List UInt8 × Option Told)) = _
        rw [if_neg herror, ← bytes_word, readCode_word, utf8_decChars, readNumber_printDec, hv4,
          hv6]
        rfl
      unfold restValues told
      dsimp only [Option.map_some]
      split_ifs
      · obtain ⟨hv4, hv6⟩ := member_addrs lib r.hostV4 r.hostV6
        exact haddrs (by rw [hv4, readJsonAddr_addrValue]) (by rw [hv6, readJsonAddr_addrValue])
      · exact haddrs rfl rfl

/-- The text, if the query is some characters. -/
theorem bytes_jsonText (queryStr : CStr) (r : Option Result) :
    (jsonText lib queryStr r).bytes =
      utf8 "\x7b\"query\": \"".toList ++ (queryStr.bytes ++
        utf8 ('"' :: Json.moreMembersText (restMembers lib r))) := by
  have hopen : (CStr.lit "\x7b\"query\": \"").bytes = utf8 "\x7b\"query\": \"".toList := by decide
  have hquote : (CStr.lit "\"").bytes = utf8 ['"'] := by decide
  rw [jsonText]
  simp only [CStr.bytes_append, List.append_assoc, bytes_jsonRest]
  rw [hopen, hquote, ← Json.utf8_append]
  rfl

/-- **A query that stands for itself is read back.** -/
theorem isText_of_plain {queryStr : CStr} {s : List Char} (hs : utf8 s = queryStr.bytes)
    (hplain : ∀ c ∈ s, isPlain c = true) (r : Option Result) :
    Json.IsText (jsonText lib queryStr r).bytes
      (.obj (("query".toList, .str s) :: restValues lib r)) := by
  have hquery : SaysMember ("query".toList, quoted s) ("query".toList, .str s) :=
    ⟨rfl, isPlain_lit (by decide), says_quoted hplain⟩
  have hlex := (Json.lexes_obj hquery (says_restMembers lib r)).lex_eq
  refine ⟨_, ?_, hlex⟩
  rw [bytes_jsonText, ← hs, ← Json.utf8_append, ← Json.utf8_append]
  refine congrArg utf8 ?_
  simp [Json.memberText, quoted]

/-- The strings of an answer behind the query. -/
def strs : Option Told → Nat
  | none => 2
  | some t => 4 + (if t.v4.isSome then 3 else 0) + if t.v6.isSome then 3 else 0

theorem mem_of_member {name : String} {members : List (List Char × Value)} {v : Value}
    (h : member name members = some v) : (name.toList, v) ∈ members := by
  obtain ⟨⟨name', v'⟩, hfind, rfl⟩ := Option.map_eq_some_iff.1 h
  have hname := List.find?_some hfind
  rw [beq_iff_eq] at hname
  exact hname ▸ List.mem_of_find?_eq_some hfind

/-- The member of an address that is read, if there is one, has three strings. -/
theorem exists_of_readJsonAddr {name : String} {members : List (List Char × Value)}
    {addr : Option (List UInt8 × Nat)} (h : readJsonAddr (member name members) = some addr) :
    ∃ found : List (List Char × Value), (∀ m ∈ found, m ∈ members) ∧
      (found.map Prod.fst).Sublist [name.toList] ∧
      (found.map fun m => 1 + m.2.tokens.countP Token.isStr).sum =
        if addr.isSome then 3 else 0 := by
  cases hmember : member name members with
  | none =>
      rw [hmember] at h
      cases h
      exact ⟨[], nofun, List.nil_sublist _, rfl⟩
  | some v =>
      rw [hmember] at h
      unfold readJsonAddr at h
      split at h
      next => contradiction
      next ip port heq =>
          obtain ⟨port', -, rfl⟩ := Option.map_eq_some_iff.1 h
          cases heq
          exact ⟨[(name.toList, .arr [.str ip, .str port])],
            List.forall_mem_singleton.2 (mem_of_member hmember), List.Sublist.refl _, rfl⟩
      next => cases h

/-- What is read has its strings. -/
theorem strs_le_of_readAnswer {query : List UInt8} {chars : List Char} {answer : Option Told}
    {ms : List (List Char × Value)}
    (h : readAnswer (.obj (("query".toList, .str chars) :: ms)) = some (query, answer)) :
    utf8 chars = query ∧ strs answer ≤ (Json.moreMembers ms).countP Token.isStr := by
  have hskip : ∀ name ∈ ["result", "last", "age", "v4", "v6"],
      member name (("query".toList, .str chars) :: ms) = member name ms := by
    intro name hname
    have hne : ∀ name ∈ ["result", "last", "age", "v4", "v6"],
        ("query".toList == name.toList) = false := by decide
    rw [member, List.find?_cons_of_neg (by rw [hne name hname]; decide), ← member]
  simp only [List.forall_mem_cons] at hskip
  obtain ⟨hresult, hlast, hage, hv4, hv6, -⟩ := hskip
  have hquery : member "query" (("query".toList, .str chars) :: ms) = some (.str chars) := rfl
  simp only [readAnswer, hquery, hresult, hlast, hage, hv4, hv6, Option.bind_eq_bind,
    Option.bind_some, readStr, Option.bind_eq_some_iff] at h
  obtain ⟨vresult, hvresult, result, hstr, h⟩ := h
  have hstr' : ∃ word, vresult = .str word := by
    cases vresult <;> first | exact ⟨_, rfl⟩ | cases hstr
  obtain ⟨word, rfl⟩ := hstr'
  have hmem := mem_of_member hvresult
  split at h
  next =>
      cases h
      have hnames : ([("result".toList, Value.str word)].map Prod.fst).Nodup :=
        List.nodup_singleton _
      exact ⟨rfl, Json.sum_le_countP hnames (List.forall_mem_singleton.2 hmem)⟩
  next =>
      simp only [Option.bind_eq_some_iff] at h
      obtain ⟨rc, -, vlast, hvlast, last, -, vage, hvage, age, -, v4, hv4, v6, hv6, h⟩ := h
      cases h
      obtain ⟨found4, hmem4, hnames4, hsum4⟩ := exists_of_readJsonAddr hv4
      obtain ⟨found6, hmem6, hnames6, hsum6⟩ := exists_of_readJsonAddr hv6
      have hmems : ∀ m ∈ ("result".toList, Value.str word) :: ("last".toList, vlast) ::
          ("age".toList, vage) :: (found4 ++ found6), m ∈ ms := by
        simp only [List.forall_mem_cons, List.forall_mem_append]
        exact ⟨hmem, mem_of_member hvlast, mem_of_member hvage, hmem4, hmem6⟩
      have hnames : ((("result".toList, Value.str word) :: ("last".toList, vlast) ::
          ("age".toList, vage) :: (found4 ++ found6)).map Prod.fst).Nodup := by
        simp only [List.map_cons, List.map_append]
        exact ((((hnames4.append hnames6).cons_cons _).cons_cons _).cons_cons _).nodup (by decide)
      have hle := Json.sum_le_countP hnames hmems
      simp only [List.map_cons, List.sum_cons, List.map_append, List.sum_append, hsum4,
        hsum6] at hle
      have hword : (Value.str word).tokens.countP Token.isStr = 1 := rfl
      refine ⟨rfl, ?_⟩
      simp only [strs]
      omega

theorem count_quoted {s : List Char} (h : ∀ c ∈ s, isPlain c = true) :
    (quoted s).count '"' = 2 := by
  have hs : s.count '"' = 0 :=
    List.count_eq_zero_of_not_mem fun hmem => absurd (h '"' hmem) (by decide)
  simp [quoted, hs]

/-- The quotes of the member of an address. -/
theorem count_addrMember (name : String) (hname : name.toList.count '"' = 0)
    (addr : SockaddrStr) :
    ((addrMember lib name addr).map fun m => 2 + m.1.count '"' + m.2.count '"').sum =
      if (toldAddr lib addr).isSome then 6 else 0 := by
  unfold addrMember toldAddr
  split
  next h =>
      have hip := count_quoted (plain_of_mem_ipChars lib h)
      have hport := count_quoted fun c (hc : c ∈ decChars addr.port.toNat) => (mem_decChars hc).1
      simp [Json.moreItemsText, hname, hip, hport]
  next => rfl

/-- **Two quotes for each string behind the query.** -/
theorem count_restMembers (r : Option Result) :
    (Json.moreMembersText (restMembers lib r)).count '"' = 2 * strs (r.map (told lib)) := by
  rw [Json.count_moreMembersText]
  cases r with
  | none => rfl
  | some r =>
      have hword : (quoted r.rc.word.toList).count '"' = 2 := by cases r.rc <;> decide
      have hlast : (if r.last then "true".toList else "false".toList).count '"' = 0 := by
        cases r.last <;> decide
      have hage : (decChars r.age.toNat).count '"' = 0 :=
        List.count_eq_zero_of_not_mem fun hmem => absurd (mem_decChars hmem).1 (by decide)
      have hnames : "result".toList.count '"' = 0 ∧ "last".toList.count '"' = 0 ∧
        "age".toList.count '"' = 0 := by decide
      have haddrs := count_addrMember lib "v4" (by decide) r.hostV4
      have haddrs' := count_addrMember lib "v6" (by decide) r.hostV6
      by_cases hrc : r.rc = .result
      · simp only [restMembers, told, if_pos hrc, List.map_cons, List.map_append, List.sum_cons,
          List.sum_append, hword, hlast, hage, hnames, haddrs, haddrs', Option.map_some, strs]
        split_ifs <;> rfl
      · simp only [restMembers, told, if_neg hrc, List.map_cons, List.sum_cons, hword, hlast, hage,
          hnames, Option.map_some, strs]
        rfl

/-- **What is read back stands for itself.** -/
theorem plain_of_readAnswer {queryStr : CStr} {r : Option Result} {v : Value}
    (htext : Json.IsText (jsonText lib queryStr r).bytes v)
    (hread : readAnswer v = some (queryStr.bytes, r.map (told lib))) :
    ∃ s, utf8 s = queryStr.bytes ∧ ∀ c ∈ s, isPlain c = true := by
  obtain ⟨cs, hcs, hlex⟩ := htext
  rw [bytes_jsonText] at hcs
  obtain ⟨m, rfl, hm⟩ := Json.exists_of_utf8_append hcs.symm
  -- the text in front of the query
  have hname : ∀ c ∈ "query".toList, isPlain c = true := isPlain_lit (by decide)
  have hcolon : Lexes [':', ' '] [.colon] :=
    Lexes.separator (by decide) (by decide) (by decide)
  have hopen : Lexes ['\x7b'] [.lbrace] := Lexes.punct (by decide) (by decide) (by decide)
  have hfront := (hopen.append ((Lexes.str hname).append hcolon)) ('"' :: m)
  have hsplit : "\x7b\"query\": \"".toList ++ m =
      ['\x7b'] ++ ('"' :: ("query".toList ++ ['"']) ++ [':', ' ']) ++ '"' :: m := rfl
  have hstr : lex (.word []) ('"' :: m) = lex (.str [] false) m := rfl
  rw [hsplit, hfront, hstr] at hlex
  obtain ⟨tokens, htokens, hv⟩ := Option.map_eq_some_iff.1 hlex
  -- the string that starts there
  obtain ⟨body, rest, s, tokens', rfl, hs, hrest, rfl, hquote⟩ := Json.lex_str_cases htokens
  rw [List.nil_append] at hs
  obtain ⟨ms, rfl, rfl⟩ := Json.eq_obj_of_tokens hv.symm
  obtain ⟨hquery, hstrs⟩ := strs_le_of_readAnswer hread
  have hquotes := Json.two_mul_countP_le hrest
  have hcons : ∀ cs, utf8 ('"' :: cs) = 34 :: utf8 cs := fun cs => rfl
  rw [Json.utf8_append, hcons, hcons] at hm
  have hplain : utf8 body = utf8 s → ∃ s, utf8 s = queryStr.bytes ∧ ∀ c ∈ s, isPlain c = true := by
    intro heq
    rcases Json.unescape_length hs with hlen | ⟨rfl, hslash, hcontrol⟩
    · rw [heq] at hlen
      exact absurd hlen (Nat.lt_irrefl _)
    · have hfree := hquote rfl hslash
      refine ⟨s, hquery, fun c hc => Json.isPlain_iff.2 ⟨?_, ?_, hcontrol c hc⟩⟩
      · rintro rfl
        exact hfree hc
      · rintro rfl
        exact hslash hc
  rcases List.append_eq_append_iff.1 hm with ⟨a, ha, htail⟩ | ⟨a, hbody, htail⟩
  · -- the string ends in the query
    rw [← hquery] at ha
    rcases Json.unescape_length hs with hlen | ⟨rfl, -⟩
    · rw [ha, List.length_append] at hlen
      omega
    · exact hplain rfl
  · cases a with
    | nil =>
        rw [List.append_nil] at hbody
        exact hplain (hbody.trans hquery.symm)
    | cons b a =>
        -- the quote behind the query does not end the string: one is missing behind it
        rw [List.cons_append] at htail
        have hbytes := congrArg (List.count 34) (List.cons.inj htail).2
        have hcount : ∀ cs : List Char, (utf8 cs).count 34 = cs.count '"' :=
          fun cs => Json.count_utf8 (d := '"') (by decide) cs
        rw [List.count_append, List.count_cons_self, hcount, hcount, count_restMembers] at hbytes
        have hopened : (Json.Mode.word []).open = 0 := rfl
        omega

/-- **An object is read back if the query stands for itself between quotes.** -/
theorem readAnswer_iff (queryStr : CStr) (r : Option Result) :
    (∃ v, Json.IsText (jsonText lib queryStr r).bytes v ∧
        readAnswer v = some (queryStr.bytes, r.map (told lib))) ↔
      ∃ s, utf8 s = queryStr.bytes ∧ ∀ c ∈ s, isPlain c = true := by
  constructor
  · rintro ⟨v, htext, hread⟩
    exact plain_of_readAnswer lib htext hread
  · rintro ⟨s, hs, hplain⟩
    exact ⟨_, isText_of_plain lib hs hplain r, by rw [readAnswer_restValues, hs]⟩

/-! ## Both -/

theorem take_of_fits {text : CStr} {buflen : Nat} (h : text.len < buflen) :
    text.take (buflen - 1) = text := by
  refine CStr.ext (List.take_of_length_le ?_)
  have hlen : text.bytes.length < buflen := h
  omega

/-- **The output can be parsed back** if and only if an address is told, or an error, and the query
is text without quotes, backslashes and control characters. -/
theorem parsesBack_iff {buflen : Nat} {queryStr : CStr} {r : Option Result}
    (hcsv : (csvText lib queryStr r).len < buflen)
    (hjson : (jsonText lib queryStr r).len < buflen) :
    ParsesBack (formatterCsv lib buflen queryStr r) (formatterJson lib buflen queryStr r) queryStr
        (r.map (told lib)) ↔
      (∀ res, r = some res → res.rc = .result) ∧
        ∃ s, utf8 s = queryStr.bytes ∧ ∀ c ∈ s, isPlain c = true := by
  rw [formatterCsv, formatterJson, take_of_fits hcsv, take_of_fits hjson, ParsesBack, readCsv_iff,
    readAnswer_iff]
  constructor
  · rintro ⟨⟨-, hrc⟩, hplain⟩
    exact ⟨hrc, hplain⟩
  · rintro ⟨hrc, s, hs, hplain⟩
    refine ⟨⟨?_, hrc⟩, s, hs, hplain⟩
    -- a tab would be a control character
    rw [← hs, ← List.count_eq_zero]
    have hcount : (utf8 s).count tab = s.count '\t' := Json.count_utf8 (d := '\t') (by decide) s
    rw [hcount, List.count_eq_zero]
    exact fun hmem => absurd (hplain _ hmem) (by decide)

/-- The functions of a Linux host. -/
def hostClientLib : ClientLib where
  toLibosmocore := Host.libosmocore
  sockaddrStrIsNonzero a :=
    !a.ip.bytes.isEmpty && a.ip.bytes.all isIpChar && a.port != 0 &&
      ((Host.sockaddrStrToInAddr a).any (·.val.any (· != 0)) ||
        (Host.sockaddrStrToIn6Addr a).any (·.val.any (· != 0)))
  nonzero_ip a h := by
    simp only [Bool.and_eq_true, Bool.not_eq_true', List.isEmpty_eq_false_iff,
      List.all_eq_true] at h
    exact h.1.1

/-- What was asked. -/
def imsiQueryStr : CStr := CStr.lit "gsup.hlr.262420000000001.imsi"

/-- What was asked, with a quote in it. -/
def quotedQueryStr : CStr := CStr.lit "gsup.\"hlr.1.imsi"

/-- The address of a home HLR. -/
def foundResult : Result :=
  ⟨.result, ⟨Host.afInet, CStr.lit "10.9.8.7", 4222⟩, SockaddrStr.zero, 3, true⟩

/-- No address was found. -/
def notFoundResult : Result := ⟨.notFound, SockaddrStr.zero, SockaddrStr.zero, 0, true⟩

/-- The address is parsed back. -/
theorem parsesBack_found :
    (csvText hostClientLib imsiQueryStr (some foundResult)).len < 1024 ∧
      (jsonText hostClientLib imsiQueryStr (some foundResult)).len < 1024 ∧
      ParsesBack (formatterCsv hostClientLib 1024 imsiQueryStr (some foundResult))
        (formatterJson hostClientLib 1024 imsiQueryStr (some foundResult)) imsiQueryStr
        (some ⟨.result, true, 3, some ((CStr.lit "10.9.8.7").bytes, 4222), none⟩) := by
  have hcsv : (csvText hostClientLib imsiQueryStr (some foundResult)).len < 1024 := by
    decide +kernel
  have hjson : (jsonText hostClientLib imsiQueryStr (some foundResult)).len < 1024 := by
    decide +kernel
  have hplain : ∀ c ∈ "gsup.hlr.262420000000001.imsi".toList, isPlain c = true :=
    isPlain_lit (by decide)
  have hquery : utf8 "gsup.hlr.262420000000001.imsi".toList = imsiQueryStr.bytes := by decide
  refine ⟨hcsv, hjson, (parsesBack_iff hostClientLib hcsv hjson).2 ⟨?_, _, hquery, hplain⟩⟩
  rintro res ⟨⟩
  rfl

/-- **A ninth column**, when no address was found; and a quote in the query that is not escaped. -/
theorem notFound_not_parsesBack :
    ((csvText hostClientLib imsiQueryStr (some notFoundResult)).len < 1024 ∧
      (jsonText hostClientLib imsiQueryStr (some notFoundResult)).len < 1024 ∧
      ((formatterCsv hostClientLib 1024 imsiQueryStr
        (some notFoundResult)).bytes.splitOn tab).length = 9 ∧
      ¬ParsesBack (formatterCsv hostClientLib 1024 imsiQueryStr (some notFoundResult))
        (formatterJson hostClientLib 1024 imsiQueryStr (some notFoundResult)) imsiQueryStr
        (some ⟨.notFound, true, 0, none, none⟩)) ∧
    ¬∃ v, Json.IsText (formatterJson hostClientLib 1024 quotedQueryStr none).bytes v ∧
      readAnswer v = some (quotedQueryStr.bytes, none) := by
  refine ⟨⟨by decide, by decide, by decide, ?_⟩, ?_⟩
  · rintro ⟨hcsv, -⟩
    have hcount := count_tab_of_readCsv hcsv
    exact absurd hcount (by decide)
  · have hfits : (jsonText hostClientLib quotedQueryStr none).len < 1024 := by decide
    rw [formatterJson, take_of_fits hfits]
    intro h
    obtain ⟨s, hs, hplain⟩ := (readAnswer_iff hostClientLib _ none).1 h
    have hcount : (utf8 s).count 34 = s.count '"' := Json.count_utf8 (d := '"') (by decide) s
    have hnone : s.count '"' = 0 :=
      List.count_eq_zero_of_not_mem fun hmem => absurd (hplain '"' hmem) (by decide)
    rw [hs, hnone] at hcount
    exact absurd hcount (by decide)

end Mslookup
end OsmoHlr
