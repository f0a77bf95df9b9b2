import CodeAudit.Counting.Ordered
import CodeAudit.Finding.Record
import CodeAudit.Pattern.Code

/-!
# Legacy frameworks

A detector recognises a framework by lines of a file, or by its name or extension.  The frameworks
of a project are listed by how often they were met, the most frequent one first.
-/

namespace CodeAudit

open Json Pattern TextPattern

/-- A framework that is worth migrating away from. -/
inductive Framework where
  | struts
  | ejb
  | servletJsp
  | springXml
  | soapRpc
  | angularJs
  | jQuery
  deriving DecidableEq, Inhabited

namespace Framework

/-- All frameworks, in the order in which equally frequent ones are listed. -/
def all : List Framework := [struts, ejb, servletJsp, springXml, soapRpc, angularJs, jQuery]

/-- The name shown to a reader. -/
def label : Framework → String
  | struts => "Apache Struts"
  | ejb => "Enterprise JavaBeans"
  | servletJsp => "Servlets/JSP"
  | springXml => "Spring XML configuration"
  | soapRpc => "JAX-RPC/Axis SOAP"
  | angularJs => "AngularJS"
  | jQuery => "jQuery"

/-- The name inside a record. -/
def tag : Framework → String
  | struts => "struts"
  | ejb => "ejb"
  | servletJsp => "servlet_jsp"
  | springXml => "spring_xml"
  | soapRpc => "soap_rpc"
  | angularJs => "angular_js"
  | jQuery => "j_query"

/-- Frameworks are ordered as they are listed. -/
instance : LT Framework where
  lt a b := all.idxOf a < all.idxOf b

instance : DecidableLT Framework := fun a b => inferInstanceAs (Decidable (all.idxOf a < all.idxOf b))

/-- The framework with exactly this name inside a record. -/
def tagged? (tag : String) : Option Framework := all.find? fun framework => framework.tag == tag

/-- The JSON value of a framework. -/
def toValue (framework : Framework) : Value := .text framework.tag

/-- Reads the name of a framework. -/
def reader : Reader := Reader.label (all.map tag)

/-- The framework of a value. -/
def ofValue? (value : Value) : Option Framework := value.asText?.bind tagged?

/-- The pattern of the lines that mark a framework. -/
def linePattern : Framework → TextPattern
  | struts => either (exactly "org.apache.struts")
      (inOrder [exactly "extends", gap,
        oneOf ["Action", "ActionForm", "DispatchAction", "ActionSupport"], edge])
  | ejb => anyOf
      [exactly "javax.ejb.",
       inOrder [exactly "@", oneOf ["Stateless", "Stateful", "MessageDriven"], edge],
       inOrder [edge, oneOf ["EJBHome", "EJBObject", "SessionBean", "EntityBean"], edge]]
  | servletJsp => either
      (inOrder [exactly "extends", gap, exactly "HttpServlet", edge])
      (inOrder [exactly "import", gap, exactly "javax.servlet."])
  | springXml =>
      oneOf ["springframework.org/schema/beans", "ClassPathXmlApplicationContext",
        "XmlBeanFactory"]
  | soapRpc => oneOf ["org.apache.axis.", "javax.xml.rpc."]
  | angularJs => anyOf
      [call (exactly "angular.module"), seq (exactly "$scope") edge,
       inOrder [oneOf ["ng-app", "ng-controller"], blanks, exactly "="]]
  | jQuery => anyOf
      [inOrder [exactly "$(", blanks, exactly "document", blanks, exactly ").ready"],
       call (seq edge (exactly "jQuery")), call (exactly "$.ajax")]

/-- The lower-case file names that mark a framework. -/
def fileNames : Framework → List String
  | struts => ["struts.xml", "struts-config.xml"]
  | ejb => ["ejb-jar.xml"]
  | servletJsp => ["web.xml"]
  | springXml => ["applicationcontext.xml", "dispatcher-servlet.xml"]
  | soapRpc => ["server-config.wsdd"]
  | angularJs | jQuery => []

/-- The lower-case extensions that mark a framework. -/
def extensions : Framework → List String
  | servletJsp => ["jsp", "jspx"]
  | soapRpc => ["wsdl"]
  | struts | ejb | springXml | angularJs | jQuery => []

end Framework

/-- A framework that was met, how often, and in which files. -/
structure Detection where
  framework : Framework
  name : String
  occurrences : Nat
  files : List String
  deriving DecidableEq, Inhabited

namespace Detection

/-- The JSON value of a detection. -/
def toValue (d : Detection) : Value :=
  .object
    [("framework", d.framework.toValue), ("name", .text d.name),
     ("occurrences", .ofCount d.occurrences), ("files", .ofTexts d.files)]

/-- Reads a detection. -/
def reader : Reader :=
  Reader.record "FrameworkDetection"
    [.required "framework" Framework.reader, .required "name" Reader.text,
     .required "occurrences" (Reader.count 64), .required "files" (Reader.list Reader.text)]

/-- The detection of a value. -/
def ofValue? (value : Value) : Option Detection := do
  return {
    framework := ← value.field? "framework" Framework.ofValue?
    name := ← value.field? "name" Value.asText?
    occurrences := ← value.field? "occurrences" Value.asCount?
    files := ← value.field? "files" (Value.asListOf? Value.asText?) }

/-- The extension of a file name: what follows its last dot, or nothing. -/
def markerExtension (name : String) : String :=
  match (Text.splitAt '.' name.toList).reverse with
  | last :: _ :: _ => String.ofList last
  | _ => ""

/-- Whether the name of a file marks a framework. -/
def isMarker (framework : Framework) (path : String) : Bool :=
  let name := Text.lowerCase (String.ofList ((Text.splitAt '/' path.toList).getLastD []))
  framework.fileNames.contains name || framework.extensions.contains (markerExtension name)

/-- How often a framework is met in a file. -/
def occurrencesIn (framework : Framework) (path content : String) : Nat :=
  (Text.lines content).countP (framework.linePattern.foundIn ·)
    + (if isMarker framework path then 1 else 0)

/-- How often each framework was met and in which files, in the order of the frameworks. -/
abbrev Hits := List (Framework × Nat × List String)

/-- Adds what a file has of a framework, if it has anything. -/
def addHits (path content : String) (hits : Hits) (framework : Framework) : Hits :=
  let count := occurrencesIn framework path content
  if 0 < count then
    Counting.update framework (0, [])
      (fun (occurrences, files) => (occurrences + count, files ++ [path])) hits
  else hits

/-- Adds what a file has of all frameworks. -/
def addSource (hits : Hits) (source : String × String) : Hits :=
  Framework.all.foldl (addHits source.1 source.2) hits

/-- The frameworks that are met in sources, the most frequent one first. -/
def all (sources : List (String × String)) : List Detection :=
  ((sources.foldl addSource []).map fun (framework, occurrences, files) =>
    (⟨framework, framework.label, occurrences, files⟩ : Detection)).mergeSort fun a b =>
      decide (b.occurrences ≤ a.occurrences)

end Detection

end CodeAudit
