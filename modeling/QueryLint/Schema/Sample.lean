/-!
# Sample schemas

Two texts to try rules on: `Sample.basic` has one object type beside the query type, and
`Sample.deprecations` has nested objects, an interface, a union, deprecated fields and enum values,
and an input object.
-/

namespace QueryLint.Sample

/-- A definition with its members between braces, one on each line. -/
def block (head : String) (members : List String) : String :=
  head ++ " \x7b\n" ++ String.join (members.map fun member ↦ "    " ++ member ++ "\n") ++ "\x7d\n"

/-- Definitions with empty lines around them. -/
def sheet (definitions : List String) : String :=
  "\n" ++ String.intercalate "\n" definitions

/-- A schema with a query type and one object type. -/
def basic : String :=
  sheet
    [block "type Query" ["user(id: ID!): User", "users: [User!]!"],
      block "type User" ["id: ID!", "name: String!", "email: String!"]]

/-- A schema with deprecated members in several places. -/
def deprecations : String :=
  sheet
    [block "type Query"
        ["user(id: ID!): User",
          "users: [User!]!",
          "posts(status: Status, order: [Order!], filter: PostFilter): [Post!]!",
          "node(id: ID!): Node",
          "search(term: String!): [SearchResult!]!",
          "stats: Stats",
          "oldUser(id: ID!): User @deprecated(reason: \"Use user instead.\")"],
      block "type Mutation" ["publish(id: ID!, status: Status!): Post"],
      block "interface Node" ["id: ID!"],
      block "type User implements Node"
        ["id: ID!",
          "name: String!",
          "fullName: String!",
          "email: String!",
          "username: String @deprecated(reason: \"Use fullName instead.\")",
          "nickname: String @deprecated(reason: null)",
          "handle: String @deprecated",
          "posts: [Post!]!",
          "friends: [User!]!"],
      block "type Post implements Node"
        ["id: ID!", "title: String!", "status: Status!", "author: User!", "comments: [Comment!]!"],
      block "type Comment" ["id: ID!", "body: String!"],
      block "type Stats" ["count: Int!"],
      "union SearchResult = User | Post\n",
      block "enum Status"
        ["DRAFT",
          "PUBLISHED",
          "ARCHIVED @deprecated(reason: \"Use DRAFT instead.\")",
          "HIDDEN @deprecated(reason: null)"],
      block "enum Order" ["ASC", "DESC"],
      block "input PostFilter" ["status: Status", "statuses: [Status!]", "authorId: ID"]]

end QueryLint.Sample
