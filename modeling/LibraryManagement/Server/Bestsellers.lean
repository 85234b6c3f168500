import LibraryManagement.Server.Book

/-! `lib/tasks/bestsellers.rake` -/

namespace LibraryManagement

open Relational

structure Bestseller where
  title : String
  author : String
  genre : String
  deriving DecidableEq, Repr

def bestsellers : List Bestseller := [
  ⟨"Don Quixote", "Miguel de Cervantes", "Classic"⟩,
  ⟨"A Tale of Two Cities", "Charles Dickens", "Classic"⟩,
  ⟨"The Lord of the Rings", "J. R. R. Tolkien", "Fantasy"⟩,
  ⟨"The Little Prince", "Antoine de Saint-Exupéry", "Fiction"⟩,
  ⟨"The Hobbit", "J. R. R. Tolkien", "Fantasy"⟩,
  ⟨"And Then There Were None", "Agatha Christie", "Mystery"⟩,
  ⟨"Dream of the Red Chamber", "Cao Xueqin", "Classic"⟩,
  ⟨"She: A History of Adventure", "H. Rider Haggard", "Adventure"⟩,
  ⟨"The Lion, the Witch and the Wardrobe", "C. S. Lewis", "Fantasy"⟩,
  ⟨"The Da Vinci Code", "Dan Brown", "Thriller"⟩,
  ⟨"The Alchemist", "Paulo Coelho", "Fiction"⟩,
  ⟨"The Catcher in the Rye", "J. D. Salinger", "Fiction"⟩,
  ⟨"One Hundred Years of Solitude", "Gabriel García Márquez", "Fiction"⟩,
  ⟨"The Name of the Rose", "Umberto Eco", "Mystery"⟩,
  ⟨"Lolita", "Vladimir Nabokov", "Fiction"⟩,
  ⟨"To Kill a Mockingbird", "Harper Lee", "Fiction"⟩,
  ⟨"Pride and Prejudice", "Jane Austen", "Classic"⟩,
  ⟨"The Kite Runner", "Khaled Hosseini", "Fiction"⟩,
  ⟨"Life of Pi", "Yann Martel", "Fiction"⟩,
  ⟨"The Girl with the Dragon Tattoo", "Stieg Larsson", "Thriller"⟩,
  ⟨"The Hunger Games", "Suzanne Collins", "Dystopian"⟩,
  ⟨"Catching Fire", "Suzanne Collins", "Dystopian"⟩,
  ⟨"Mockingjay", "Suzanne Collins", "Dystopian"⟩,
  ⟨"Twilight", "Stephenie Meyer", "Paranormal Romance"⟩,
  ⟨"New Moon", "Stephenie Meyer", "Paranormal Romance"⟩,
  ⟨"Eclipse", "Stephenie Meyer", "Paranormal Romance"⟩,
  ⟨"Breaking Dawn", "Stephenie Meyer", "Paranormal Romance"⟩,
  ⟨"Fifty Shades of Grey", "E. L. James", "Romance"⟩,
  ⟨"Fifty Shades Darker", "E. L. James", "Romance"⟩,
  ⟨"Fifty Shades Freed", "E. L. James", "Romance"⟩,
  ⟨"The Fault in Our Stars", "John Green", "Young Adult"⟩,
  ⟨"The Help", "Kathryn Stockett", "Fiction"⟩,
  ⟨"The Book Thief", "Markus Zusak", "Historical Fiction"⟩,
  ⟨"Gone Girl", "Gillian Flynn", "Thriller"⟩,
  ⟨"The Shining", "Stephen King", "Horror"⟩,
  ⟨"It", "Stephen King", "Horror"⟩,
  ⟨"The Stand", "Stephen King", "Horror"⟩,
  ⟨"Misery", "Stephen King", "Horror"⟩,
  ⟨"1984", "George Orwell", "Dystopian"⟩,
  ⟨"Animal Farm", "George Orwell", "Satire"⟩,
  ⟨"Brave New World", "Aldous Huxley", "Dystopian"⟩,
  ⟨"Fahrenheit 451", "Ray Bradbury", "Dystopian"⟩,
  ⟨"Moby-Dick", "Herman Melville", "Classic"⟩,
  ⟨"War and Peace", "Leo Tolstoy", "Classic"⟩,
  ⟨"Crime and Punishment", "Fyodor Dostoevsky", "Classic"⟩,
  ⟨"Anna Karenina", "Leo Tolstoy", "Classic"⟩,
  ⟨"The Brothers Karamazov", "Fyodor Dostoevsky", "Classic"⟩,
  ⟨"The Great Gatsby", "F. Scott Fitzgerald", "Classic"⟩,
  ⟨"Ulysses", "James Joyce", "Classic"⟩,
  ⟨"The Sound and the Fury", "William Faulkner", "Classic"⟩,
  ⟨"The Grapes of Wrath", "John Steinbeck", "Classic"⟩,
  ⟨"Of Mice and Men", "John Steinbeck", "Classic"⟩,
  ⟨"East of Eden", "John Steinbeck", "Classic"⟩,
  ⟨"A Game of Thrones", "George R. R. Martin", "Fantasy"⟩,
  ⟨"A Clash of Kings", "George R. R. Martin", "Fantasy"⟩,
  ⟨"A Storm of Swords", "George R. R. Martin", "Fantasy"⟩,
  ⟨"A Feast for Crows", "George R. R. Martin", "Fantasy"⟩,
  ⟨"A Dance with Dragons", "George R. R. Martin", "Fantasy"⟩,
  ⟨"Prince Caspian", "C. S. Lewis", "Fantasy"⟩,
  ⟨"The Voyage of the Dawn Treader", "C. S. Lewis", "Fantasy"⟩,
  ⟨"The Silver Chair", "C. S. Lewis", "Fantasy"⟩,
  ⟨"The Horse and His Boy", "C. S. Lewis", "Fantasy"⟩,
  ⟨"The Magician's Nephew", "C. S. Lewis", "Fantasy"⟩,
  ⟨"The Last Battle", "C. S. Lewis", "Fantasy"⟩,
  ⟨"The Silmarillion", "J. R. R. Tolkien", "Fantasy"⟩,
  ⟨"The Picture of Dorian Gray", "Oscar Wilde", "Classic"⟩,
  ⟨"Dracula", "Bram Stoker", "Horror"⟩,
  ⟨"Frankenstein", "Mary Shelley", "Horror"⟩,
  ⟨"Jane Eyre", "Charlotte Brontë", "Classic"⟩,
  ⟨"Wuthering Heights", "Emily Brontë", "Classic"⟩,
  ⟨"Les Misérables", "Victor Hugo", "Classic"⟩,
  ⟨"The Hunchback of Notre-Dame", "Victor Hugo", "Classic"⟩,
  ⟨"The Count of Monte Cristo", "Alexandre Dumas", "Classic"⟩,
  ⟨"The Three Musketeers", "Alexandre Dumas", "Classic"⟩,
  ⟨"The Old Man and the Sea", "Ernest Hemingway", "Classic"⟩,
  ⟨"For Whom the Bell Tolls", "Ernest Hemingway", "Classic"⟩,
  ⟨"The Sun Also Rises", "Ernest Hemingway", "Classic"⟩,
  ⟨"The Stranger", "Albert Camus", "Classic"⟩,
  ⟨"The Plague", "Albert Camus", "Classic"⟩,
  ⟨"The Road", "Cormac McCarthy", "Fiction"⟩,
  ⟨"No Country for Old Men", "Cormac McCarthy", "Fiction"⟩,
  ⟨"Dune", "Frank Herbert", "Science Fiction"⟩,
  ⟨"Foundation", "Isaac Asimov", "Science Fiction"⟩,
  ⟨"Neuromancer", "William Gibson", "Science Fiction"⟩,
  ⟨"Snow Crash", "Neal Stephenson", "Science Fiction"⟩,
  ⟨"Ender's Game", "Orson Scott Card", "Science Fiction"⟩,
  ⟨"The Hitchhiker's Guide to the Galaxy", "Douglas Adams", "Science Fiction"⟩,
  ⟨"The Color Purple", "Alice Walker", "Fiction"⟩,
  ⟨"Beloved", "Toni Morrison", "Fiction"⟩,
  ⟨"A Brief History of Time", "Stephen Hawking", "Non-Fiction"⟩,
  ⟨"Sapiens", "Yuval Noah Harari", "Non-Fiction"⟩,
  ⟨"The Power of Habit", "Charles Duhigg", "Non-Fiction"⟩,
  ⟨"Educated", "Tara Westover", "Non-Fiction"⟩,
  ⟨"Becoming", "Michelle Obama", "Non-Fiction"⟩,
  ⟨"The Girl on the Train", "Paula Hawkins", "Thriller"⟩,
  ⟨"The Immortal Life of Henrietta Lacks", "Rebecca Skloot", "Non-Fiction"⟩,
  ⟨"The Outsiders", "S. E. Hinton", "Young Adult"⟩,
  ⟨"The Giver", "Lois Lowry", "Young Adult"⟩,
  ⟨"The Handmaid's Tale", "Margaret Atwood", "Dystopian"⟩,
  ⟨"The Princess Bride", "William Goldman", "Fantasy"⟩
]

/-- `format("999%010d", index + 1)` -/
def bestsellerIsbn (index : Nat) : String :=
  let digits := (toString (index + 1)).toList
  String.ofList ("999".toList ++ List.replicate (10 - digits.length) '0' ++ digits)

namespace Bestseller

/-- The attributes that the task assigns to a record. -/
def assign (book : Bestseller) (record : Book.Draft) : Book.Draft :=
  { record with
    title := some book.title
    author := some book.author
    genre := some book.genre
    totalCopies := .int 10 }

/-- `Book.find_or_initialize_by(isbn: isbn)`, the assignments and, if they changed the record,
`save!`; none where that raises.
-/
def save (platform : Platform) (env : Env) (book : Bestseller) (isbn : String) (s : Store)
    : Option Store :=
  match s.books.rows.find? (fun row => row.isbn == isbn) with
  | none =>
      match (book.assign { Book.new with isbn := some isbn }).create platform env s with
      | .stored (_, stored) => some stored
      | .invalid _ | .raised _ => none
  | some record =>
      if book.assign record.load = record.load then
        some s
      else
        match (book.assign record.load).update platform env s record with
        | .stored (_, stored) => some stored
        | .invalid _ | .raised _ => none

end Bestseller

/-- The saves of the task one after another, each with its own reading of the clock. A save
that raises ends the task, and the earlier ones stay.
-/
def seedBooks (platform : Platform) (envs : Nat → Env)
    : List (Bestseller × Nat) → Store → Store
  | [], s => s
  | (book, index) :: rest, s =>
      match book.save platform (envs index) (bestsellerIsbn index) s with
      | some saved => seedBooks platform envs rest saved
      | none => s

/-- `db:seed_bestsellers` -/
def seedBestsellers (platform : Platform) (envs : Nat → Env) (s : Store) : Store :=
  seedBooks platform envs bestsellers.zipIdx s

end LibraryManagement
