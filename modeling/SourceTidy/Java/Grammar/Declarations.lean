import SourceTidy.Java.Grammar.Statements

namespace SourceTidy.Java.Grammar

open Shape Form

def throwsForm : Form := all [kw "throws", phrase .typeList]

def implementsForm : Form := all [kw "implements", phrase .typeList]

def permitsForm : Form := all [kw "permits", phrase .typeList]

def methodForm : Form :=
  all
    [maybe (all [phrase .typeParameters, annotations]), phrase .plainType, name,
     phrase .formalParameters, maybe (phrase .dimensions), maybe throwsForm,
     any [phrase .block, sym ";"]]

def fieldForm : Form := all [phrase .plainType, phrase .declarators, sym ";"]

/-- A constructor calls another constructor only in its first statement. -/
def constructorBodyForm : Form :=
  inBraces
    (all
      [maybe
        (all
          [any
            [all [maybe (phrase .typeArguments), words ["this", "super"]],
             all [phrase (.primary false), sym ".", maybe (phrase .typeArguments), kw "super"]],
           phrase .arguments, sym ";"]),
       many (phrase .statement)])

def classForm : Form :=
  all
    [phrase .modifiers, kw "class", name, maybe (phrase .typeParameters),
     maybe (all [kw "extends", phrase .type]), maybe implementsForm, maybe permitsForm,
     phrase .classBody]

def interfaceForm : Form :=
  all
    [phrase .modifiers, kw "interface", name, maybe (phrase .typeParameters),
     maybe (all [kw "extends", phrase .typeList]), maybe permitsForm, phrase .interfaceBody]

def enumForm : Form :=
  node "enum_declaration"
    (all [phrase .modifiers, kw "enum", name, maybe implementsForm, phrase .enumBody])

def recordForm : Form :=
  node "record_declaration"
    (all
      [phrase .modifiers, kw "record", name, maybe (phrase .typeParameters),
       phrase .formalParameters, maybe implementsForm, phrase .classBody])

def annotationTypeForm : Form :=
  all [phrase .modifiers, sym "@", touching, kw "interface", name, phrase .annotationBody]

def typeDeclarationForm (withRecords : Bool) : Form :=
  any
    ([classForm, interfaceForm, enumForm, annotationTypeForm] ++
      if withRecords then [recordForm] else [])

def memberForm : Form :=
  any
    [sym ";", phrase .block, all [kw "static", phrase .block], phrase (.typeDeclaration true),
     all
      [phrase .modifiers, noWord memberWords,
       any
        [all [maybe (phrase .typeParameters), nameBut primitiveTypes, phrase .formalParameters,
          maybe throwsForm, phrase .constructorBody],
         all [nameBut primitiveTypes, phrase .block],
         phrase .method,
         fieldForm]]]

def classBodyForm : Form := inBraces (many (phrase .member))

def interfaceBodyForm : Form :=
  inBraces (many (any
    [sym ";", phrase (.typeDeclaration true),
     all [phrase .modifiers, noWord memberWords, any [phrase .method, fieldForm]]]))

def annotationBodyForm : Form :=
  inBraces (many (any
    [sym ";", phrase (.typeDeclaration false),
     all
      [phrase .modifiers, noWord (modifierWords ++ ["class", "interface", "enum"]),
       any
        [all [phrase .plainType, name, sym "(", sym ")", maybe (phrase .dimensions),
          maybe (all [kw "default", phrase .elementValue]), sym ";"],
         fieldForm]]]))

def enumConstant : Form :=
  all [phrase .modifiers, name, maybe (phrase .arguments), maybe (phrase .classBody)]

def enumBodyForm : Form :=
  inBraces
    (all [maybe (commas enumConstant), maybe (sym ","),
      maybe (all [sym ";", many (phrase .member)])])

def moduleDirectiveForm : Form :=
  any
    [all [kw "requires", many (words ["transitive", "static"]), phrase .qualifiedName, sym ";"],
     all [words ["exports", "opens"], phrase .qualifiedName,
      maybe (all [kw "to", commas (phrase .qualifiedName)]), sym ";"],
     all [kw "uses", phrase .qualifiedName, sym ";"],
     all [kw "provides", phrase .qualifiedName, kw "with", commas (phrase .qualifiedName), sym ";"]]

def declarationForm : Form :=
  any
    [all [kw "import", maybe (kw "static"), phrase .qualifiedName,
      maybe (all [sym ".", sym "*"]), sym ";"],
     all [annotations, kw "package", phrase .qualifiedName, sym ";"],
     all [annotations, maybe (kw "open"), kw "module", phrase .qualifiedName,
      inBraces (many (phrase .moduleDirective))],
     phrase (.typeDeclaration true)]

def programForm : Form :=
  many (any [phrase .statement,
    all [phrase .modifiers, noWord (statementWords ++ contextualWords), phrase .method]])

def Phrase.form : Phrase → Form
  | qualifiedName => qualifiedNameForm
  | annotationMark => annotationMarkForm
  | annotationArguments => annotationArgumentsForm
  | elementValue => elementValueForm
  | dimensions => dimensionsForm
  | typeArguments => typeArgumentsForm
  | typeParameters => typeParametersForm
  | simpleType => simpleTypeForm
  | plainType => plainTypeForm
  | type => typeForm
  | typeList => typeListForm
  | expression inLabel => expressionForm inLabel
  | operand inLabel => operandForm inLabel
  | primary inLabel => primaryForm inLabel
  | creation => creationForm
  | arguments => argumentsForm
  | initializer => initializerForm
  | arrayInitializer => arrayInitializerForm
  | parenthesized => parenthesizedForm
  | lambda => lambdaForm
  | binaryOperator => binaryOperatorForm
  | assignmentOperator => assignmentOperatorForm
  | switchBlock => switchBlockForm
  | switchLabel => switchLabelForm
  | recordPattern => recordPatternForm
  | statement => statementForm
  | block => blockForm
  | localVariable => localVariableForm
  | declarators => declaratorsForm
  | declaratorName => declaratorNameForm
  | modifiers => modifiersForm
  | formalParameters => formalParametersForm
  | formalParameter => formalParameterForm
  | catches => catchesForm
  | resource => resourceForm
  | declaration => declarationForm
  | typeDeclaration withRecords => typeDeclarationForm withRecords
  | method => methodForm
  | classBody => classBodyForm
  | member => memberForm
  | constructorBody => constructorBodyForm
  | interfaceBody => interfaceBodyForm
  | enumBody => enumBodyForm
  | annotationBody => annotationBodyForm
  | moduleDirective => moduleDirectiveForm
  | program => programForm

end SourceTidy.Java.Grammar
