import TypeAtlas.Main
import TypeAtlas.Session.Run
import TypeAtlas.Proofs.Resolver.NormalForm
import TypeAtlas.Proofs.Schema.Parsed
import TypeAtlas.Proofs.Schema.Scan
import TypeAtlas.Proofs.Override.Layers
import TypeAtlas.Proofs.Session.Scanned
import TypeAtlas.Proofs.Session.Creation
import TypeAtlas.Proofs.Session.Priority
import TypeAtlas.Proofs.Config.Assignment
import TypeAtlas.Proofs.Config.Members
import TypeAtlas.Proofs.Session.Run
import TypeAtlas.Proofs.Text.Trimming
import TypeAtlas.Proofs.Java.ClassName
import TypeAtlas.Proofs.Java.Spelling
import TypeAtlas.Proofs.Override.StringInput
import TypeAtlas.Proofs.Schema.Merge
import TypeAtlas.Proofs.Schema.Alike
import TypeAtlas.Proofs.Session.Order
import TypeAtlas.Proofs.GraphQL.Continuation
import TypeAtlas.Proofs.GraphQL.Definitions
import TypeAtlas.Proofs.GraphQL.Scan
import TypeAtlas.Proofs.Session.JoinedSources
import TypeAtlas.Proofs.Schema.Entries
import TypeAtlas.Proofs.Resolver.ReferenceTypes
import TypeAtlas.Proofs.Resolver.CanonicalTypes
import TypeAtlas.Proofs.Session.SourceSchema
import TypeAtlas.Proofs.GraphQL.Lexemes
import TypeAtlas.Proofs.GraphQL.TypeReference
import TypeAtlas.Proofs.Schema.ClassNames
import TypeAtlas.Proofs.Resolver.Interfaces
import TypeAtlas.Proofs.Session.MappedNames
import TypeAtlas.Proofs.Session.Nullability
import TypeAtlas.Proofs.Resolver.Collisions
import TypeAtlas.Proofs.Session.Repetition
import TypeAtlas.Proofs.Files.Tree
import TypeAtlas.Proofs.Files.Text
import TypeAtlas.Proofs.Session.SourceFiles
import TypeAtlas.Proofs.Session.Keys
import TypeAtlas.Proofs.Command.Agreement
