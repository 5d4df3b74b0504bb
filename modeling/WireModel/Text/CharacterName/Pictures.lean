import WireModel.Text.CharacterName.Family

/-!
# Names of pictures

The names of emoji and other pictures.
-/

namespace WireModel.Text.CharacterName

def pictures : List Family := [
  ⟨[""],
    ["ABACUS;ACCORDION;ADHESIVE BANDAGE;ADMISSION TICKETS;AERIAL TRAMWAY;AIRPLANE ARRIVING",
     "AIRPLANE DEPARTURE;ALIEN MONSTER;AMBULANCE;AMERICAN FOOTBALL;AMPHORA;ANATOMICAL HEART",
     "ANGER SYMBOL;ANGRY FACE;ANGUISHED FACE;ANT;ANTENNA WITH BARS",
     "ANTICLOCKWISE DOWNWARDS AND UPWARDS OPEN CIRCLE ARROWS;ARTICULATED LORRY;ARTIST PALETTE",
     "ASTONISHED FACE;ATHLETIC SHOE;AUBERGINE;AUTO RICKSHAW;AUTOMATED TELLER MACHINE;AVOCADO",
     "AXE;BABY;BACK OF ENVELOPE;BACK WITH LEFTWARDS ARROW ABOVE;BACON;BACTRIAN CAMEL;BADGER",
     "BADMINTON RACQUET AND SHUTTLECOCK;BAGEL;BAGGAGE CLAIM;BAGUETTE BREAD;BALL OF YARN",
     "BALLET SHOES;BALLOON;BANANA;BANJO;BANK;BAR CHART;BAR OF SOAP;BARBER POLE;BASKET",
     "BASKETBALL AND HOOP;BAT;BATH;BATHTUB;BATTERY;BEACH WITH UMBRELLA",
     "BEAMED ASCENDING MUSICAL NOTES;BEAMED DESCENDING MUSICAL NOTES;BEANS;BEAR FACE",
     "BEARDED PERSON;BEATING HEART;BEAVER;BED;BEER MUG;BEETLE;BELL;BELL PEPPER",
     "BELL WITH CANCELLATION STROKE;BELLHOP BELL;BENTO BOX;BEVERAGE BOX;BICYCLE;BICYCLIST",
     "BIKINI;BILLED CAP;BILLIARDS;BIRD;BIRTHDAY CAKE;BISON;BITING LIP;BLOSSOM;BLOWFISH",
     "BLUE BOOK;BLUE HEART;BLUEBERRIES;BOAR;BOMB;BONE;BOOK;BOOKMARK;BOOKMARK TABS;BOOKS",
     "BOOMERANG;BOTTLE WITH POPPING CORK;BOUQUET;BOUQUET OF FLOWERS;BOW AND ARROW",
     "BOWL OF HYGIEIA;BOWL WITH SPOON;BOWLING;BOXING GLOVE;BOY;BOYS SYMBOL;BRAIN;BREAD",
     "BREAST-FEEDING;BRICK;BRIDE WITH VEIL;BRIDGE AT NIGHT;BRIEFCASE;BRIEFS;BROCCOLI",
     "BROKEN HEART;BROOM;BROWN HEART;BUBBLE TEA;BUBBLES;BUCKET;BUG;BUILDING CONSTRUCTION",
     "BULLHORN;BULLHORN WITH SOUND WAVES;BURRITO;BUS STOP;BUST IN SILHOUETTE",
     "BUSTS IN SILHOUETTE;BUTTER;BUTTERFLY;CACTUS;CALENDAR;CALL ME HAND;CAMERA",
     "CAMERA WITH FLASH;CAMPING;CANCELLATION X;CANDLE;CANDY;CANNED FOOD;CANOE;CARD FILE BOX",
     "CARD INDEX;CARD INDEX DIVIDERS;CAROUSEL HORSE;CARP STREAMER;CARPENTRY SAW;CARROT;CAT",
     "CAT FACE;CAT FACE WITH TEARS OF JOY;CAT FACE WITH WRY SMILE;CELTIC CROSS;CHAIR",
     "CHEERING MEGAPHONE;CHEESE WEDGE;CHEQUERED FLAG;CHERRIES;CHERRY BLOSSOM;CHESTNUT;CHICKEN",
     "CHILD;CHILDREN CROSSING;CHIPMUNK;CHOCOLATE BAR;CHOPSTICKS;CHRISTMAS TREE;CINEMA",
     "CIRCUS TENT;CITYSCAPE;CITYSCAPE AT DUSK;CLAMSHELL MOBILE PHONE;CLAPPER BOARD",
     "CLAPPING HANDS SIGN;CLASSICAL BUILDING;CLINKING BEER MUGS;CLINKING GLASSES;CLIPBOARD",
     "CLOWN FACE;COAT;COCKROACH;COCKTAIL GLASS;COCONUT;COIN;COLLISION SYMBOL;COMPASS",
     "COMPRESSION;CONFETTI BALL;CONFOUNDED FACE;CONFUSED FACE;CONSTRUCTION SIGN",
     "CONSTRUCTION WORKER;CONTROL KNOBS;CONVENIENCE STORE;COOKED RICE;COOKIE;COOKING;CORAL",
     "COUCH AND LAMP;COUPLE WITH HEART;COW;COW FACE;CRAB;CREDIT CARD;CRESCENT MOON;CRICKET",
     "CRICKET BAT AND BALL;CROCODILE;CROISSANT;CROSS POMMEE",
     "CROSS POMMEE WITH HALF-CIRCLE BELOW;CROSSED FLAGS;CROWN;CRUTCH;CRYING CAT FACE",
     "CRYING FACE;CRYSTAL BALL;CUCUMBER;CUP WITH STRAW;CUPCAKE;CURLING STONE;CURRENCY EXCHANGE",
     "CURRY AND RICE;CUSTARD;CUSTOMS;CUT OF MEAT;CYCLONE;DAGGER KNIFE;DANCER;DANGO",
     "DARK SUNGLASSES;DASH SYMBOL;DEAF PERSON;DECIDUOUS TREE;DECREASE FONT SIZE SYMBOL;DEER",
     "DELIVERY TRUCK;DEPARTMENT STORE;DERELICT HOUSE BUILDING;DESERT;DESERT ISLAND",
     "DESKTOP COMPUTER;DESKTOP WINDOW;DIAMOND SHAPE WITH A DOT INSIDE;DIESEL LOCOMOTIVE",
     "DIRECT HIT;DISAPPOINTED BUT RELIEVED FACE;DISAPPOINTED FACE;DISGUISED FACE;DIVING MASK",
     "DIYA LAMP;DIZZY FACE;DIZZY SYMBOL;DNA DOUBLE HELIX;DO NOT LITTER SYMBOL;DODO;DOG",
     "DOG FACE;DOLPHIN;DOOR;DOTTED LINE FACE;DOUGHNUT;DOVE OF PEACE;DOWN-POINTING RED TRIANGLE",
     "DOWN-POINTING SMALL RED TRIANGLE;DRAGON;DRAGON FACE;DRESS;DROMEDARY CAMEL;DROOLING FACE",
     "DROP OF BLOOD;DRUM WITH DRUMSTICKS;DUCK;DUMPLING;DVD;E-MAIL SYMBOL;EAGLE;EAR",
     "EAR OF MAIZE;EAR OF RICE;EAR WITH HEARING AID;EGG;ELEPHANT;ELEVATOR;ELF",
     "END WITH LEFTWARDS ARROW ABOVE;ENVELOPE WITH DOWNWARDS ARROW ABOVE",
     "ENVELOPE WITH LIGHTNING;EUROPEAN CASTLE;EUROPEAN POST OFFICE;EVERGREEN TREE",
     "EXPRESSIONLESS FACE;EXTRATERRESTRIAL ALIEN;EYE;EYEGLASSES;EYES;FACTORY;FAIRY;FALAFEL",
     "FALLEN LEAF;FAMILY;FATHER CHRISTMAS;FAX ICON;FAX MACHINE;FEARFUL FACE;FEATHER;FENCER",
     "FERRIS WHEEL;FIELD HOCKEY STICK AND BALL;FILE CABINET;FILE FOLDER;FILM FRAMES",
     "FILM PROJECTOR;FIRE;FIRE EXTINGUISHER;FIRECRACKER;FIREWORK SPARKLER;FIREWORKS;FISH",
     "FISH CAKE WITH SWIRL DESIGN;FISHING POLE AND FISH;FISTED HAND SIGN;FLAMINGO;FLAT SHOE",
     "FLATBREAD;FLEXED BICEPS;FLOPPY DISK;FLOWER PLAYING CARDS;FLUSHED FACE;FLY;FOG;FOGGY",
     "FONDUE;FOOT;FOOTPRINTS;FORK AND KNIFE;FORK AND KNIFE WITH PLATE;FORTUNE COOKIE",
     "FOUR LEAF CLOVER;FOX FACE;FREEZING FACE;FRENCH FRIES;FRIED SHRIMP;FROG FACE",
     "FRONT-FACING BABY CHICK;FROWNING FACE WITH OPEN MOUTH;FULL MOON SYMBOL",
     "FULL MOON WITH FACE;GAME DIE;GARLIC;GEM STONE;GENIE;GHOST;GIRAFFE FACE;GIRL;GIRLS SYMBOL",
     "GLASS OF MILK;GLOBE WITH MERIDIANS;GLOVES;GLOWING STAR;GOAL NET;GOAT;GOGGLES;GOLFER",
     "GORILLA;GRADUATION CAP;GRAPES;GRIMACING FACE;GROWING HEART;GUARDSMAN;GUIDE DOG;GUITAR",
     "HAIRCUT;HAMBURGER;HAMMER;HAMMER AND WRENCH;HAMSA;HAMSTER FACE",
     "HAND WITH INDEX AND MIDDLE FINGERS CROSSED;HAND WITH INDEX FINGER AND THUMB CROSSED",
     "HANDBAG;HANDBALL;HANDSHAKE;HAPPY PERSON RAISING ONE HAND;HARD DISK;HATCHING CHICK",
     "HEADPHONE;HEADSTONE;HEAR-NO-EVIL MONKEY;HEAVY DOLLAR SIGN;HEAVY LATIN CROSS;HEDGEHOG",
     "HELICOPTER;HERB;HIBISCUS;HIGH BRIGHTNESS SYMBOL;HIGH-HEELED SHOE;HIGH-SPEED TRAIN",
     "HIGH-SPEED TRAIN WITH BULLET NOSE;HIKING BOOT;HINDU TEMPLE;HIPPOPOTAMUS;HOCHO;HOLE",
     "HONEY POT;HONEYBEE;HOOK;HORIZONTAL TRAFFIC LIGHT;HORSE;HORSE FACE;HORSE RACING;HOSPITAL",
     "HOT DOG;HOT PEPPER;HOTEL;HUGGING FACE;HUNDRED POINTS SYMBOL;HUSHED FACE;HUT",
     "I LOVE YOU HAND SIGN;ICE CREAM;ICE CUBE;ICE HOCKEY STICK AND PUCK;IDENTIFICATION CARD",
     "IMP;INBOX TRAY;INCOMING ENVELOPE;INCREASE FONT SIZE SYMBOL;INDEX POINTING AT THE VIEWER",
     "INFORMATION DESK PERSON;IZAKAYA LANTERN;JACK-O-LANTERN;JAR;JEANS;JIGSAW PUZZLE PIECE",
     "JOYSTICK;JUGGLING;KAABA;KANGAROO;KEY;KEYBOARD AND MOUSE;KEYCAP TEN;KIMONO;KISS;KISS MARK",
     "KITE;KIWIFRUIT;KNEELING PERSON;KNOT;KOALA;LAB COAT;LABEL;LACROSSE STICK AND BALL;LADDER",
     "LADY BEETLE;LAST QUARTER MOON SYMBOL;LAST QUARTER MOON WITH FACE;LEAF FLUTTERING IN WIND",
     "LEAFY GREEN;LEDGER;LEFT-FACING FIST;LEFT-POINTING MAGNIFYING GLASS;LEFTWARDS HAND;LEG",
     "LEMON;LEOPARD;LEVEL SLIDER;LIGHT CHECK MARK;LIGHT RAIL;LIGHTNING MOOD",
     "LIGHTNING MOOD BUBBLE;LINK SYMBOL;LINKED PAPERCLIPS;LION FACE;LIPS;LIPSTICK;LIZARD;LLAMA",
     "LOBSTER;LOCK;LOCK WITH INK PEN;LOLLIPOP;LONG DRUM;LOTION BOTTLE;LOTUS;LOUDLY CRYING FACE",
     "LOVE HOTEL;LOVE LETTER;LOW BATTERY;LOW BRIGHTNESS SYMBOL",
     "LOWER RIGHT SHADOWED WHITE CIRCLE;LUGGAGE;LUNGS;LYING FACE;MAGE;MAGIC WAND;MAGNET",
     "MAMMOTH;MANGO;MANS SHOE;MANTELPIECE CLOCK;MANUAL WHEELCHAIR;MAPLE LEAF",
     "MARTIAL ARTS UNIFORM;MATE DRINK;MAXIMIZE;MEAT ON BONE;MECHANICAL ARM;MECHANICAL LEG",
     "MELON;MELTING FACE;MEMO;MENORAH WITH NINE BRANCHES;MENS SYMBOL;MERPERSON;METRO;MICROBE",
     "MICROPHONE;MICROSCOPE;MILITARY HELMET;MILITARY MEDAL;MILKY WAY;MINIBUS;MINIDISC;MINIMIZE",
     "MIRROR;MIRROR BALL;MODERN PENTATHLON;MONEY BAG;MONEY WITH WINGS;MONEY-MOUTH FACE;MONKEY",
     "MONKEY FACE;MONORAIL;MOOD BUBBLE;MOON CAKE;MOON VIEWING CEREMONY;MOSQUE;MOSQUITO",
     "MOTHER CHRISTMAS;MOTOR BOAT;MOTOR SCOOTER;MOTORIZED WHEELCHAIR;MOTORWAY;MOUNT FUJI;MOUSE",
     "MOUSE FACE;MOUSE TRAP;MOUTH;MOVIE CAMERA;MOYAI;MULTIPLE MUSICAL NOTES;MUSHROOM",
     "NAIL POLISH;NAME BADGE;NATIONAL PARK;NAUSEATED FACE;NAZAR AMULET;NECKTIE;NERD FACE",
     "NEST WITH EGGS;NESTING DOLLS;NEUTRAL FACE;NEW MOON SYMBOL;NEW MOON WITH FACE;NEWSPAPER",
     "NIGHT WITH STARS;NINJA;NON-POTABLE WATER SYMBOL;NORTHEAST-POINTING AIRPLANE;NOSE",
     "NOTCHED LEFT SEMICIRCLE WITH THREE DOTS;NOTCHED RIGHT SEMICIRCLE WITH THREE DOTS",
     "NOTEBOOK;NOTEBOOK WITH DECORATIVE COVER;NUT AND BOLT;OCTAGONAL SIGN;OCTOPUS;ODEN",
     "OFFICE BUILDING;OIL DRUM;OK HAND SIGN;OLD KEY;OLD PERSONAL COMPUTER;OLIVE;OM SYMBOL",
     "ON WITH EXCLAMATION MARK WITH LEFT RIGHT ARROW ABOVE;ONE BUTTON MOUSE;ONE-PIECE SWIMSUIT",
     "ONION;OPTICAL DISC;OPTICAL DISC ICON;ORANGE BOOK;ORANGE HEART;ORANGUTAN;OTTER",
     "OUTBOX TRAY;OVERHEATED FACE;OVERLAP;OWL;OX;OYSTER;PACKAGE;PAGE FACING UP",
     "PAGE WITH CIRCLED TEXT;PAGE WITH CURL;PAGER;PAGODA;PALM DOWN HAND;PALM TREE;PALM UP HAND",
     "PALMS UP TOGETHER;PANCAKES;PANDA FACE;PAPERCLIP;PARACHUTE;PARROT;PARTY POPPER",
     "PASSENGER SHIP;PASSPORT CONTROL;PAW PRINTS;PEACH;PEACOCK;PEANUTS;PEAR;PEDESTRIAN",
     "PEN OVER STAMPED ENVELOPE;PENGUIN;PENSIVE FACE;PEOPLE HUGGING;PERFORMING ARTS",
     "PERSEVERING FACE;PERSONAL COMPUTER;PETRI DISH;PICKUP TRUCK;PIE;PIG;PIG FACE;PIG NOSE",
     "PILE OF POO;PILL;PINATA;PINCHED FINGERS;PINCHING HAND;PINE DECORATION;PINEAPPLE;PISTOL",
     "PLACARD;PLACE OF WORSHIP;PLAYGROUND SLIDE;PLUNGER;POCKET CALCULATOR;POODLE;POPCORN",
     "PORTABLE STEREO;POSTAL HORN;POSTBOX;POT OF FOOD;POTABLE WATER SYMBOL;POTATO;POTTED PLANT",
     "POUCH;POULTRY LEG;POURING LIQUID;POUTING CAT FACE;POUTING FACE;PRAYER BEADS;PRETZEL",
     "PRINCE;PRINCESS;PRINTER;PRINTER ICON;PROBING CANE;PROHIBITED SIGN",
     "PUBLIC ADDRESS LOUDSPEAKER;PURPLE HEART;PURSE;PUT LITTER IN ITS PLACE SYMBOL;RABBIT",
     "RABBIT FACE;RACCOON;RACING CAR;RACING MOTORCYCLE;RADIO;RADIO BUTTON;RAILWAY CAR",
     "RAILWAY TRACK;RAINBOW;RAM;RAT;RAZOR;RECEIPT;RECREATIONAL VEHICLE;RED APPLE",
     "RED GIFT ENVELOPE;RELIEVED FACE;REMINDER RIBBON;RESTROOM;REVOLVING HEARTS;RHINOCEROS",
     "RIBBON;RICE BALL;RICE CRACKER;RIFLE;RIGHT-FACING FIST;RIGHT-POINTING MAGNIFYING GLASS",
     "RIGHTWARDS HAND;RING;RING BUOY;RINGED PLANET;RINGING BELL;ROASTED SWEET POTATO",
     "ROBOT FACE;ROCK;ROCKET;ROLL OF PAPER;ROLLED-UP NEWSPAPER;ROLLER COASTER;ROLLER SKATE",
     "ROLLING ON THE FLOOR LAUGHING;ROOSTER;ROSE;ROUND PUSHPIN;ROWBOAT;RUGBY FOOTBALL;RUNNER",
     "RUNNING SHIRT WITH SASH;SAFETY PIN;SAFETY VEST;SAKE BOTTLE AND CUP;SALT SHAKER",
     "SALUTING FACE;SANDWICH;SARI;SATELLITE;SATELLITE ANTENNA;SAUROPOD;SAXOPHONE;SCARF;SCHOOL",
     "SCHOOL SATCHEL;SCOOTER;SCORPION;SCREEN;SCREWDRIVER;SCROLL;SEAL;SEAT;SECOND PLACE MEDAL",
     "SEE-NO-EVIL MONKEY;SEEDLING;SELFIE;SERIOUS FACE WITH SYMBOLS COVERING MOUTH",
     "SEWING NEEDLE;SHALLOW PAN OF FOOD;SHARK;SHAVED ICE;SHEEP;SHIELD;SHIP",
     "SHOCKED FACE WITH EXPLODING HEAD;SHOOTING STAR;SHOPPING BAGS;SHOPPING TROLLEY;SHORTCAKE",
     "SHORTS;SHOWER;SHRIMP;SHRUG;SIGN OF THE HORNS;SILHOUETTE OF JAPAN",
     "SIX POINTED STAR WITH MIDDLE DOT;SKATEBOARD;SKI AND SKI BOOT;SKULL;SKUNK;SLED",
     "SLEEPY FACE;SLEUTH OR SPY;SLICE OF PIZZA;SLIGHTLY FROWNING FACE;SLIGHTLY SMILING FACE",
     "SLOT MACHINE;SLOTH;SMILING CAT FACE WITH HEART-SHAPED EYES",
     "SMILING CAT FACE WITH OPEN MOUTH;SMIRKING FACE;SMOKING SYMBOL;SNAIL;SNAKE;SNEEZING FACE",
     "SNOW CAPPED MOUNTAIN;SNOWBOARDER;SOCKS;SOFT ICE CREAM;SOFT SHELL FLOPPY DISK;SOFTBALL",
     "SOON WITH RIGHTWARDS ARROW ABOVE;SPAGHETTI;SPARKLING HEART;SPEAK-NO-EVIL MONKEY;SPEAKER",
     "SPEAKING HEAD IN SILHOUETTE;SPEECH BALLOON;SPEEDBOAT;SPIDER;SPIDER WEB",
     "SPLASHING SWEAT SYMBOL;SPONGE;SPOOL OF THREAD;SPOON;SPORTS MEDAL;SPOUTING WHALE;SQUID",
     "STADIUM;STAMPED ENVELOPE;STANDING PERSON;STATION;STATUE OF LIBERTY;STEAM LOCOMOTIVE",
     "STEAMING BOWL;STETHOSCOPE;STOCK CHART;STRAIGHT RULER;STRAWBERRY;STUDIO MICROPHONE",
     "STUFFED FLATBREAD;STUPA;SUN WITH FACE;SUNFLOWER;SUNRISE;SUNRISE OVER MOUNTAINS",
     "SUNSET OVER BUILDINGS;SUPERHERO;SUPERVILLAIN;SURFER;SUSHI;SUSPENSION RAILWAY;SWAN",
     "SWIMMER;SYMBOL FOR MARKS CHAPTER;SYNAGOGUE;SYRINGE;T-REX;T-SHIRT",
     "TABLE TENNIS PADDLE AND BALL;TACO;TAKEOUT BOX;TAMALE;TANABATA TREE;TANGERINE",
     "TAPE CARTRIDGE;TEACUP WITHOUT HANDLE;TEAPOT;TEAR-OFF CALENDAR;TEDDY BEAR;TELESCOPE",
     "TELEVISION;TENNIS RACQUET AND BALL;TEST TUBE;THERMOMETER;THINKING FACE;THIRD PLACE MEDAL",
     "THONG SANDAL;THOUGHT BALLOON;TICKET;TIGER;TIGER FACE;TIRED FACE;TOILET;TOKYO TOWER",
     "TOMATO;TONGUE;TOOLBOX;TOOTH;TOOTHBRUSH;TOP HAT;TOP WITH UPWARDS ARROW ABOVE;TRACKBALL",
     "TRACTOR;TRAIN;TRAM;TRAM CAR;TRIANGLE WITH ROUNDED CORNERS;TRIANGULAR FLAG ON POST",
     "TRIANGULAR RULER;TRIDENT EMBLEM;TROLL;TROLLEYBUS;TROPHY;TROPICAL DRINK;TROPICAL FISH",
     "TRUMPET;TULIP;TUMBLER GLASS;TURKEY;TURNED OK HAND SIGN;TURTLE;TWISTED RIGHTWARDS ARROWS",
     "UNAMUSED FACE;UNICORN FACE;UPPER RIGHT SHADOWED WHITE CIRCLE;UPSIDE-DOWN FACE;VAMPIRE",
     "VERTICAL TRAFFIC LIGHT;VIBRATION MODE;VIDEO CAMERA;VIDEO GAME;VIDEOCASSETTE;VIOLIN",
     "VOLCANO;VOLLEYBALL;WAFFLE;WANING CRESCENT MOON SYMBOL;WANING GIBBOUS MOON SYMBOL",
     "WASTEBASKET;WATERMELON;WAXING CRESCENT MOON SYMBOL;WAXING GIBBOUS MOON SYMBOL",
     "WEARY CAT FACE;WEARY FACE;WEDDING;WEIGHT LIFTER;WHALE;WHEEL;WILTED FLOWER",
     "WIND BLOWING FACE;WIND CHIME;WINDOW;WINE GLASS;WINKING FACE;WIRED KEYBOARD;WOLF FACE",
     "WOMAN WITH BUNNY EARS;WOMENS SYMBOL;WOOD;WORLD MAP;WORM;WORRIED FACE;WRAPPED PRESENT",
     "WRENCH;WRESTLERS;X-RAY;YAWNING FACE;YELLOW HEART;YO-YO;ZEBRA FACE;ZIPPER-MOUTH FACE",
     "ZOMBIE"]⟩,
  ⟨[";OLDER "], ["ADULT;MAN;WOMAN"]⟩,
  ⟨[";ONCOMING "], ["AUTOMOBILE;BUS;FIRE ENGINE;TAXI"]⟩,
  ⟨[";EMPTY "], ["DOCUMENT;NOTE;NOTE PAD;NOTE PAGE;PAGE;PAGES"]⟩,
  ⟨[";BLACK "], ["DROPLET;FOLDER;PUSHPIN;ROSETTE"]⟩,
  ⟨[";REVERSED "], ["THUMBS DOWN SIGN;THUMBS UP SIGN"]⟩,
  ⟨["BABY "], ["ANGEL;BOTTLE;CHICK;SYMBOL"]⟩,
  ⟨["BALLOT "],
    ["BOLD SCRIPT X;BOX WITH BALLOT;BOX WITH BOLD CHECK;BOX WITH BOLD SCRIPT X",
     "BOX WITH SCRIPT X;SCRIPT X"]⟩,
  ⟨["BANKNOTE "], ["WITH DOLLAR SIGN;WITH EURO SIGN;WITH POUND SIGN;WITH YEN SIGN"]⟩,
  ⟨["BLACK ;WHITE "],
    ["DOWN POINTING BACKHAND INDEX;HARD SHELL FLOPPY DISK;HEART;LEFT POINTING BACKHAND INDEX",
     "PENNANT;RIGHT POINTING BACKHAND INDEX;SQUARE BUTTON;TOUCHTONE TELEPHONE",
     "UP POINTING BACKHAND INDEX"]⟩,
  ⟨["BLACK "], ["SKULL AND CROSSBONES"]⟩,
  ⟨["BLACK CHESS ;NEUTRAL CHESS ;WHITE CHESS "],
    ["BISHOP ROTATED NINETY DEGREES;BISHOP ROTATED TWO HUNDRED SEVENTY DEGREES;EQUIHOPPER",
     "EQUIHOPPER ROTATED NINETY DEGREES;KING ROTATED NINETY DEGREES",
     "KING ROTATED TWO HUNDRED SEVENTY DEGREES;PAWN ROTATED NINETY DEGREES",
     "PAWN ROTATED TWO HUNDRED SEVENTY DEGREES;QUEEN ROTATED NINETY DEGREES",
     "QUEEN ROTATED TWO HUNDRED SEVENTY DEGREES;ROOK ROTATED NINETY DEGREES",
     "ROOK ROTATED TWO HUNDRED SEVENTY DEGREES"]⟩,
  ⟨["BLACK CHESS ;WHITE CHESS "], ["KNIGHT-BISHOP;KNIGHT-QUEEN;KNIGHT-ROOK"]⟩,
  ⟨["BLACK CHESS KNIGHT ROTATED ;NEUTRAL CHESS KNIGHT ROTATED ;WHITE CHESS KNIGHT ROTATED "],
    ["FORTY-FIVE DEGREES;NINETY DEGREES;ONE HUNDRED THIRTY-FIVE DEGREES",
     "THREE HUNDRED FIFTEEN DEGREES;TWO HUNDRED SEVENTY DEGREES",
     "TWO HUNDRED TWENTY-FIVE DEGREES"]⟩,
  ⟨["BLACK CHESS TURNED ;NEUTRAL CHESS ;NEUTRAL CHESS TURNED ;WHITE CHESS TURNED "],
    ["BISHOP;KING;KNIGHT;PAWN;QUEEN;ROOK"]⟩,
  ⟨["CHART "], ["WITH DOWNWARDS TREND;WITH UPWARDS TREND;WITH UPWARDS TREND AND YEN SIGN"]⟩,
  ⟨["CIRCLED "],
    ["CROSS FORMEE;CROSS FORMEE WITH FOUR DOTS;CROSS FORMEE WITH TWO DOTS;CROSS POMMEE",
     "INFORMATION SOURCE"]⟩,
  ⟨["CLOCK FACE "],
    ["EIGHT OCLOCK;EIGHT-THIRTY;ELEVEN OCLOCK;ELEVEN-THIRTY;FIVE OCLOCK;FIVE-THIRTY",
     "FOUR OCLOCK;FOUR-THIRTY;NINE OCLOCK;NINE-THIRTY;ONE OCLOCK;ONE-THIRTY;SEVEN OCLOCK",
     "SEVEN-THIRTY;SIX OCLOCK;SIX-THIRTY;TEN OCLOCK;TEN-THIRTY;THREE OCLOCK;THREE-THIRTY",
     "TWELVE OCLOCK;TWELVE-THIRTY;TWO OCLOCK;TWO-THIRTY"]⟩,
  ⟨["CLOCKWISE "],
    ["DOWNWARDS AND UPWARDS OPEN CIRCLE ARROWS;RIGHT AND LEFT SEMICIRCLE ARROWS",
     "RIGHTWARDS AND LEFTWARDS OPEN CIRCLE ARROWS",
     "RIGHTWARDS AND LEFTWARDS OPEN CIRCLE ARROWS WITH CIRCLED ONE OVERLAY"]⟩,
  ⟨["CLOSED ;OPEN "], ["BOOK;MAILBOX WITH LOWERED FLAG;MAILBOX WITH RAISED FLAG"]⟩,
  ⟨["CLOSED "], ["LOCK WITH KEY;UMBRELLA"]⟩,
  ⟨["CLOUD "], ["WITH LIGHTNING;WITH RAIN;WITH SNOW;WITH TORNADO"]⟩,
  ⟨["DOCUMENT "], ["WITH PICTURE;WITH TEXT;WITH TEXT AND PICTURE"]⟩,
  ⟨["DOWNWARD FACING "], ["HOOK;HOOK WITH DOT;NOTCHED HOOK;NOTCHED HOOK WITH DOT"]⟩,
  ⟨["EARTH "], ["GLOBE AMERICAS;GLOBE ASIA-AUSTRALIA;GLOBE EUROPE-AFRICA"]⟩,
  ⟨["ELECTRIC "], ["LIGHT BULB;PLUG;TORCH"]⟩,
  ⟨["EMOJI COMPONENT "], ["BALD;CURLY HAIR;RED HAIR;WHITE HAIR"]⟩,
  ⟨["EMOJI MODIFIER FITZPATRICK "], ["TYPE-1-2;TYPE-3;TYPE-4;TYPE-5;TYPE-6"]⟩,
  ⟨["EMPTY "], ["NEST"]⟩,
  ⟨["FACE "],
    ["HOLDING BACK TEARS;MASSAGE;PALM;SAVOURING DELICIOUS FOOD;SCREAMING IN FEAR",
     "THROWING A KISS;WITHOUT MOUTH"]⟩,
  ⟨["FACE WITH "],
    ["COLD SWEAT;COWBOY HAT;DIAGONAL MOUTH;FINGER COVERING CLOSED LIPS;HEAD-BANDAGE",
     "LOOK OF TRIUMPH;MEDICAL MASK;MONOCLE;NO GOOD GESTURE;OK GESTURE;ONE EYEBROW RAISED",
     "OPEN EYES AND HAND OVER MOUTH;OPEN MOUTH;OPEN MOUTH AND COLD SWEAT;OPEN MOUTH VOMITING",
     "PARTY HORN AND PARTY HAT;PEEKING EYE;PLEADING EYES;ROLLING EYES;STUCK-OUT TONGUE",
     "STUCK-OUT TONGUE AND TIGHTLY-CLOSED EYES;STUCK-OUT TONGUE AND WINKING EYE;TEARS OF JOY",
     "THERMOMETER;UNEVEN EYES AND WAVY MOUTH"]⟩,
  ⟨["FIRST "], ["PLACE MEDAL;QUARTER MOON SYMBOL;QUARTER MOON WITH FACE"]⟩,
  ⟨["FLYING "], ["DISC;ENVELOPE;SAUCER"]⟩,
  ⟨["FRAME "], ["WITH AN X;WITH PICTURE;WITH TILES"]⟩,
  ⟨["GREEN "], ["APPLE;BOOK;HEART;SALAD"]⟩,
  ⟨["GRINNING "],
    ["CAT FACE WITH SMILING EYES;FACE;FACE WITH ONE LARGE AND ONE SMALL EYE",
     "FACE WITH SMILING EYES;FACE WITH STAR EYES"]⟩,
  ⟨["HEART "], ["DECORATION;HANDS;WITH ARROW;WITH RIBBON;WITH TIP ON THE LEFT"]⟩,
  ⟨["HOUSE "], ["BUILDING;BUILDINGS;WITH GARDEN"]⟩,
  ⟨["INPUT SYMBOL "],
    ["FOR LATIN CAPITAL LETTERS;FOR LATIN LETTERS;FOR LATIN SMALL LETTERS;FOR NUMBERS",
     "FOR SYMBOLS"]⟩,
  ⟨["JAPANESE "], ["CASTLE;DOLLS;GOBLIN;OGRE;POST OFFICE;SYMBOL FOR BEGINNER"]⟩,
  ⟨["KISSING "], ["CAT FACE WITH CLOSED EYES;FACE;FACE WITH CLOSED EYES;FACE WITH SMILING EYES"]⟩,
  ⟨["LARGE "], ["BLUE CIRCLE;RED CIRCLE"]⟩,
  ⟨["LARGE ;SMALL "], ["BLUE DIAMOND;ORANGE DIAMOND"]⟩,
  ⟨["LEFT ;RIGHT "], ["ANGER BUBBLE;HAND TELEPHONE RECEIVER;SPEECH BUBBLE;THOUGHT BUBBLE"]⟩,
  ⟨["LEFT "], ["HALF CIRCLE;LUGGAGE;WRITING HAND"]⟩,
  ⟨["LEFT HALF CIRCLE "], ["WITH DOT;WITH FOUR DOTS;WITH THREE DOTS;WITH TWO DOTS"]⟩,
  ⟨["LOWER LEFT "], ["BALLPOINT PEN;CRAYON;FOUNTAIN PEN;PAINTBRUSH;PENCIL"]⟩,
  ⟨["MAN "],
    ["AND WOMAN HOLDING HANDS;DANCING;IN BUSINESS SUIT LEVITATING;IN TUXEDO;WITH GUA PI MAO",
     "WITH TURBAN"]⟩,
  ⟨["MOBILE "], ["PHONE;PHONE OFF;PHONE WITH RIGHTWARDS ARROW AT LEFT"]⟩,
  ⟨["MOUNTAIN "], ["BICYCLIST;CABLEWAY;RAILWAY"]⟩,
  ⟨["MUSICAL "], ["KEYBOARD;KEYBOARD WITH JACKS;NOTE;SCORE"]⟩,
  ⟨["NO "],
    ["BICYCLES;ENTRY SIGN;MOBILE PHONES;ONE UNDER EIGHTEEN SYMBOL;PEDESTRIANS;PIRACY",
     "SMOKING SYMBOL"]⟩,
  ⟨["ONCOMING "], ["POLICE CAR"]⟩,
  ⟨["OPEN "], ["FILE FOLDER;FOLDER;HANDS SIGN;LOCK"]⟩,
  ⟨["PERSON "],
    ["BOWING DEEPLY;CLIMBING;DOING CARTWHEEL;FROWNING;IN LOTUS POSITION;IN STEAMY ROOM",
     "RAISING BOTH HANDS IN CELEBRATION"]⟩,
  ⟨["PERSON WITH "], ["BLOND HAIR;CROWN;FOLDED HANDS;HEADSCARF;POUTING FACE"]⟩,
  ⟨["POLICE "], ["CAR;CARS REVOLVING LIGHT;OFFICER"]⟩,
  ⟨["PREGNANT "], ["MAN;PERSON;WOMAN"]⟩,
  ⟨["RAISED "],
    ["BACK OF HAND;HAND WITH FINGERS SPLAYED;HAND WITH PART BETWEEN MIDDLE AND RING FINGERS"]⟩,
  ⟨["REVERSED "],
    ["HAND WITH MIDDLE FINGER EXTENDED;RAISED HAND WITH FINGERS SPLAYED;VICTORY HAND"]⟩,
  ⟨["RIGHT "], ["SPEAKER;SPEAKER WITH ONE SOUND WAVE;SPEAKER WITH THREE SOUND WAVES"]⟩,
  ⟨["SIDEWAYS "],
    ["BLACK DOWN POINTING INDEX;BLACK LEFT POINTING INDEX;BLACK RIGHT POINTING INDEX",
     "BLACK UP POINTING INDEX;WHITE DOWN POINTING INDEX;WHITE LEFT POINTING INDEX",
     "WHITE RIGHT POINTING INDEX;WHITE UP POINTING INDEX"]⟩,
  ⟨["SLEEPING "], ["ACCOMMODATION;FACE;SYMBOL"]⟩,
  ⟨["SMALL "], ["AIRPLANE"]⟩,
  ⟨["SMILING FACE WITH "],
    ["HALO;HEART-SHAPED EYES;HORNS;OPEN MOUTH;OPEN MOUTH AND COLD SWEAT",
     "OPEN MOUTH AND SMILING EYES;OPEN MOUTH AND TIGHTLY-CLOSED EYES;SMILING EYES",
     "SMILING EYES AND HAND COVERING MOUTH;SMILING EYES AND THREE HEARTS;SUNGLASSES;TEAR"]⟩,
  ⟨["SPEAKER "], ["WITH CANCELLATION STROKE;WITH ONE SOUND WAVE;WITH THREE SOUND WAVES"]⟩,
  ⟨["SPIRAL "], ["CALENDAR PAD;NOTE PAD;SHELL"]⟩,
  ⟨["TELEPHONE "], ["ON TOP OF MODEM;RECEIVER;RECEIVER WITH PAGE"]⟩,
  ⟨["THREE ;TWO "], ["BUTTON MOUSE;SPEECH BUBBLES"]⟩,
  ⟨["THREE "], ["NETWORKED COMPUTERS;RAYS ABOVE;RAYS BELOW;RAYS LEFT;RAYS RIGHT"]⟩,
  ⟨["TWO "], ["HEARTS;MEN HOLDING HANDS;WOMEN HOLDING HANDS"]⟩,
  ⟨["UP-POINTING "],
    ["AIRPLANE;MILITARY AIRPLANE;RED TRIANGLE;SMALL AIRPLANE;SMALL RED TRIANGLE"]⟩,
  ⟨["WATER "], ["BUFFALO;CLOSET;POLO;WAVE"]⟩,
  ⟨["WAVING "], ["BLACK FLAG;HAND SIGN;WHITE FLAG"]⟩,
  ⟨["WHITE "],
    ["DOWN POINTING LEFT HAND INDEX;FLOWER;LATIN CROSS;SUN;SUN BEHIND CLOUD",
     "SUN BEHIND CLOUD WITH RAIN;SUN WITH SMALL CLOUD"]⟩,
  ⟨["WOMANS "], ["BOOTS;CLOTHES;HAT;SANDAL"]⟩,
  ⟨["XIANGQI BLACK ;XIANGQI RED "], ["CANNON;CHARIOT;ELEPHANT;GENERAL;HORSE;MANDARIN;SOLDIER"]⟩]

end WireModel.Text.CharacterName
