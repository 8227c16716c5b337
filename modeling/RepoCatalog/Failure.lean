import RepoCatalog.File.Path
import RepoCatalog.File.SystemError
import RepoCatalog.Text.Utf8

/-!
# Failures

Why an operation stopped. The first eight kinds are the fatal conditions of a run, which are
reported once; any other kind ends the program with its own report.
-/

namespace RepoCatalog

/-- Why an operation stopped. -/
inductive Failure
  | invalidProxy (proxy : String)
  | ignoreListUnreadable (path : FilePath) (cause : Failure)
  | clientUnavailable (cause : Failure)
  | listingFailed (cause : Failure)
  | directoryNotCreated (directory : FilePath) (cause : SystemError)
  | fileNotWritten (file : FilePath) (cause : SystemError)
  | delegateNotStarted (program : String) (cause : Failure)
  | delegateExited (program : String) (status : Int)
  | system (error : SystemError)
  | gitlab (kind : String) (code : Option Int) (explanation : String)
  | request (kind : String) (explanation : String)
  | notUtf8 (malformed : Text.Malformed)
  | notEncodable (stray : Text.Stray)
  | embeddedNull
  | badArgument (guidance : String)
  | notANumeral (numeral : String)
  | numeralTooLong (digits : Nat)
  | numberTooLong
  | unbalancedBrackets
  | badFutureHost
  | bracketedOctets
  | notAHostLiteral (host : String)
  | deceptiveHost (host : String)
  | badFormat (format : String)
  | value (explanation : String)
  | linkLoop (path : String)
  | unknownHome
  | runtime (explanation : String)
  | missingKey (key : Option String)
  | interrupted
  | signalled (signal : Int)
  | wrongType
  | missingAttribute
  | overflow
  | outOfRange
  deriving DecidableEq, Repr

namespace Failure

/-- Most digits of a number that is read from text or written as text. -/
def digitLimit : Nat := 4300

/-- Name of the program that fetches and indexes repositories. -/
def delegateName : String := "livegrep-fetch-reindex"

/-- Longest part of a rejected numeral that is shown. -/
def numeralShown : Nat := 200

/-- Number of the interrupt signal. -/
def interruptSignal : Int := 2

/-- Exit status after a signal. -/
def signalStatus (signal : Int) : Int :=
  if signal = interruptSignal then 130 else 143

/-- Text of a failure. -/
def message : Failure → String
  | invalidProxy proxy =>
    "Invalid proxy URL: " ++ Text.quoted proxy ++ ". Example: http://127.0.0.1:8080"
  | ignoreListUnreadable path cause => "loading " ++ path.text ++ ": " ++ cause.message
  | clientUnavailable cause => "creating gitlab client: " ++ cause.message
  | listingFailed cause => "listing projects: " ++ cause.message
  | directoryNotCreated directory cause =>
    "creating directory " ++ directory.text ++ ": " ++ cause.message
  | fileNotWritten file cause => "writing " ++ file.text ++ ": " ++ cause.message
  | delegateNotStarted program cause => delegateName ++ ": " ++ program ++ ": " ++ cause.message
  | delegateExited program status =>
    delegateName ++ ": " ++ program ++ " exited with status " ++ toString status
  | system error => error.message
  | gitlab _ (some code) explanation => toString code ++ ": " ++ explanation
  | gitlab _ none explanation => explanation
  | request _ explanation => explanation
  | notUtf8 malformed => malformed.message
  | notEncodable stray => stray.message
  | embeddedNull => "embedded null byte"
  | badArgument guidance => guidance
  | notANumeral numeral =>
    "invalid literal for int() with base 10: "
      ++ String.ofList ((Text.quoted numeral).toList.take numeralShown)
  | numeralTooLong digits =>
    "Exceeds the limit (4300 digits) for integer string conversion: value has "
      ++ toString digits ++ " digits; use sys.set_int_max_str_digits() to increase the limit"
  | numberTooLong => "Exceeds the limit (4300 digits) for integer string conversion"
  | unbalancedBrackets => "Invalid IPv6 URL"
  | badFutureHost => "IPvFuture address is invalid"
  | bracketedOctets => "An IPv4 address cannot be in brackets"
  | notAHostLiteral host =>
    Text.quoted host ++ " does not appear to be an IPv4 or IPv6 address"
  | deceptiveHost host =>
    "netloc '" ++ host ++ "' contains invalid characters under NFKC normalization"
  | badFormat format => "Invalid format '" ++ format ++ "' for '%' style"
  | value explanation => explanation
  | linkLoop path => "Symlink loop from " ++ Text.quoted path
  | unknownHome => "Could not determine home directory."
  | runtime explanation => explanation
  | missingKey key => (key.map Text.quoted).getD ""
  | interrupted => ""
  | signalled signal => toString (signalStatus signal)
  | wrongType => "unsupported operand types"
  | missingAttribute => "missing attribute"
  | overflow => "int too large to convert to float"
  | outOfRange => "list index out of range"

/-- Whether a failure is one of the fatal conditions of a run. -/
def isReported : Failure → Bool
  | invalidProxy _ => true
  | ignoreListUnreadable _ _ => true
  | clientUnavailable _ => true
  | listingFailed _ => true
  | directoryNotCreated _ _ => true
  | fileNotWritten _ _ => true
  | delegateNotStarted _ _ => true
  | delegateExited _ _ => true
  | _ => false

/-- Whether a failure comes from the GitLab server or the connection to it. -/
def isRemote : Failure → Bool
  | gitlab _ _ _ => true
  | request _ _ => true
  | _ => false

/-- Whether a failure is an error of the operating system; connection errors count. -/
def isSystem : Failure → Bool
  | system _ => true
  | request _ _ => true
  | _ => false

/-- Exit status of the delegate, if it ran. -/
def delegateStatus? : Failure → Option Int
  | delegateExited _ status => some status
  | _ => none

end Failure

end RepoCatalog
