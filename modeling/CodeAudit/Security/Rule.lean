import CodeAudit.Finding.Basic
import CodeAudit.Pattern.Code

/-!
# Rules for suspicious lines

A rule is a pattern with the finding that a matching line gives.  The rules are tried on every line
that is not a comment.
-/

namespace CodeAudit
namespace Security

open Pattern TextPattern

/-- A pattern of suspicious lines, and what is reported for them. -/
structure Rule where
  kind : String
  pattern : TextPattern
  score : Floating
  description : String
  recommendation : String

/-- SQL text that is joined with other text, or that is a formatted argument. -/
def sqlInjection : Rule where
  kind := "SQL Injection"
  pattern := either
    (inOrder [quote, blanks,
      anyOf
        [inOrder [anyCase "select", blank, plus any, blank, anyCase "from"],
         inOrder [anyCase "insert", gap, anyCase "into"],
         inOrder [anyCase "update", gap, word, gap, anyCase "set"],
         inOrder [anyCase "delete", gap, anyCase "from"]],
      edge, star (outside "\"'"), quote, blanks, oneOfAnyCase ["+", "%", ".format("]])
    (inOrder [call (oneOfAnyCase ["execute", "query", "raw"]), blanks, anyCase "f", quote,
      star any, oneOfAnyCase ["select", "insert", "update", "delete"], edge])
  score := .num 8
  description := "SQL statement assembled from string concatenation or formatting"
  recommendation := "Use parameterized queries or prepared statements"

/-- Calls that run a command through a shell. -/
def commandInjection : Rule where
  kind := "Command Injection"
  pattern := anyOf
    [call (exactly "Runtime.getRuntime().exec"), call (exactly "os.system"),
     inOrder [exactly "subprocess.", word, exactly "(", star any, exactly "shell", blanks,
       exactly "=", blanks, exactly "True"],
     call (exactly "child_process.exec"), call (seq edge (exactly "execSync")),
     call (exactly "shell_exec")]
  score := .num 9
  description := "Operating system command executed through a shell"
  recommendation := "Avoid shell invocation; pass arguments as a list and validate all input"

/-- Calls of `eval` that are not a method or a part of a longer name. -/
def codeInjection : Rule where
  kind := "Code Injection"
  pattern := seq (either beginning (element fun c => !Text.isWord c && c != '.'))
    (call (exactly "eval"))
  score := .num (17 / 2)
  description := "Dynamic code evaluation"
  recommendation := "Remove eval and parse the input explicitly"

/-- A text of at least four characters assigned to a name that holds a secret. -/
def hardcodedSecret : Rule where
  kind := "Hardcoded Secret"
  pattern := assignedTo (anyOf
    [oneOfAnyCase ["password", "passwd", "pwd", "secret"], joined "api" "key",
     joined "access" "token", joined "private" "key"])
  score := .num (15 / 2)
  description := "Credential embedded in source code"
  recommendation := "Load secrets from environment variables or a secret manager"

/-- Calls that choose a broken hash or cipher. -/
def weakCryptography : Rule where
  kind := "Weak Cryptography"
  pattern := anyOf
    [inOrder [anyCase "MessageDigest.getInstance(", blanks, exactly "\"",
       oneOfAnyCase ["MD5", "SHA1", "SHA-1"], exactly "\""],
     call (seq (anyCase "hashlib.") (oneOfAnyCase ["md5", "sha1"])),
     inOrder [anyCase "Cipher.getInstance(", blanks, exactly "\"",
       oneOfAnyCase ["DES", "RC4", "AES/ECB"]],
     inOrder [anyCase "createHash(", blanks, quote, oneOfAnyCase ["md5", "sha1"], quote]]
  score := .num 5
  description := "Broken or weak cryptographic algorithm"
  recommendation :=
    "Use SHA-256 or stronger hashes and authenticated encryption such as AES-GCM"

/-- Readers of serialized objects. -/
def insecureDeserialization : Rule where
  kind := "Insecure Deserialization"
  pattern := anyOf
    [construction ["ObjectInputStream"],
     call (oneOf ["pickle.load", "pickle.loads"]),
     inOrder [edge, oneOf ["XMLDecoder", "BinaryFormatter"], edge],
     call (seq edge (exactly "unserialize")),
     inOrder [call (exactly "yaml.load"), arguments, exactly ")", blanks, ending]]
  score := .num 8
  description := "Deserialization of potentially untrusted data"
  recommendation := "Deserialize only trusted data or use a safe format with schema validation"

/-- Data written into HTML as it is. -/
def crossSiteScripting : Rule where
  kind := "Cross-Site Scripting"
  pattern := anyOf
    [inOrder [exactly ".innerHTML", blanks, exactly "="], call (exactly "document.write"),
     exactly "dangerouslySetInnerHTML",
     inOrder [exactly "<%=", blanks, exactly "request.getParameter"]]
  score := .num 6
  description := "Unescaped data written into HTML"
  recommendation :=
    "Encode output for its HTML context or use a templating engine with auto-escaping"

/-- File paths that come from a request. -/
def pathTraversal : Rule where
  kind := "Path Traversal"
  pattern := anyOf
    [inOrder
      [construction ["File", "FileInputStream", "FileReader"], arguments, exactly "request.getParameter"],
     inOrder [call (exactly "open"), arguments, exactly "request.",
       oneOf ["args", "form", "GET", "POST"]],
     inOrder [call (exactly "sendFile"), arguments, exactly "req.",
       oneOf ["params", "query", "body"]]]
  score := .num (13 / 2)
  description := "File path built from request input"
  recommendation := "Canonicalize the path and check it stays inside an allowed base directory"

/-- Switches and classes that accept any certificate. -/
def tlsVerificationDisabled : Rule where
  kind := "TLS Verification Disabled"
  pattern := anyOf
    [inOrder [anyCase "verify", blanks, exactly "=", blanks, anyCase "False"],
     inOrder [anyCase "rejectUnauthorized", blanks, exactly ":", blanks, anyCase "false"],
     inOrder [anyCase "InsecureSkipVerify", blanks, exactly ":", blanks, anyCase "true"],
     oneOfAnyCase ["TrustAllCerts", "NoopHostnameVerifier", "ALLOW_ALL_HOSTNAME_VERIFIER"]]
  score := .num 7
  description := "Certificate or hostname verification is turned off"
  recommendation := "Keep TLS verification enabled and trust a proper CA bundle"

/-- Random numbers that can be predicted. -/
def insecureRandomness : Rule where
  kind := "Insecure Randomness"
  pattern := anyOf
    [construction ["Random"], call (oneOf ["Math.random", "random.random"])]
  score := .num 3
  description := "Non-cryptographic random number generator"
  recommendation :=
    "Use SecureRandom, the secrets module or crypto.getRandomValues for security tokens"

/-- All rules, in the order in which they are tried. -/
def rules : List Rule :=
  [sqlInjection, commandInjection, codeInjection, hardcodedSecret, weakCryptography,
   insecureDeserialization, crossSiteScripting, pathTraversal, tlsVerificationDisabled,
   insecureRandomness]

/-- The pattern of a comment line. -/
def commentLine : TextPattern := lineStartingWith ["//", "#", "*", "/*", "<!--", "--"]

end Security
end CodeAudit
